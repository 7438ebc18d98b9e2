import Helpdesk.Proofs.Workflow.Cache
import Helpdesk.Rehearsal
import Mathlib.Logic.Relation

/-!
# Helpdesk.Proofs.Workflow.Overtaking — refreshes that overlap.

A refresh loads bindings and then puts them into use, and while it loads, other refreshes begin and
end. So bindings wait while others are put into use, possibly some that were loaded after them. What is
in use is what was put into use last, whenever it was loaded. A turnover goes back when bindings are put
into use after others that were loaded later: that can happen next exactly when bindings wait that were
overtaken by some in use. Refreshes that end in the order of their loads are never overtaken.
-/
namespace Helpdesk.Workflow

variable {σ : Type}

/-- Bindings that were loaded, and how many loads there were before. -/
structure Batch where
  number : Nat
  bindings : List Binding

/-- An office in which refreshes overlap. -/
structure Turnover (σ : Type) where
  office : Office σ
  /-- How many loads there were. -/
  loads : Nat
  /-- What was loaded and is still to be put into use, in the order of the loads. -/
  waiting : List Batch
  /-- What was put into use, the last first. -/
  used : List Batch

namespace Turnover

/-- An office before its first refresh. -/
def opening (o : Office σ) : Turnover σ :=
  ⟨o, 0, [], []⟩

/-- Bindings were loaded. -/
def loaded (x : Turnover σ) (bindings : List Binding) (after : Office σ) : Turnover σ :=
  ⟨after, x.loads + 1, x.waiting ++ [⟨x.loads, bindings⟩], x.used⟩

/-- A batch was put into use; others go on waiting. -/
def installed (x : Turnover σ) (sv : Services σ) (batch : Batch) (others : List Batch) : Turnover σ :=
  ⟨((install sv batch.bindings).run x.office).2, x.loads, others, batch :: x.used⟩

/-- What happens at a time; a batch may be put into use past the batches that `may` allows to be
overtaken. Between the steps of refreshes everything but the workflows may change in any way. -/
inductive Step (sv : Services σ) (may : List Batch → Prop) : Turnover σ → Turnover σ → Prop
  | load {x : Turnover σ} {bindings : List Binding} {after : Office σ}
      (h : (load sv).run.run x.office = (.ok bindings, after)) :
      Step sv may x (x.loaded bindings after)
  | fail {x : Turnover σ} {fault : Fault} {after : Office σ}
      (h : (Workflow.load sv).run.run x.office = (.error fault, after)) :
      Step sv may x { x with office := after }
  | install {x : Turnover σ} (front : List Batch) (batch : Batch) (back : List Batch)
      (hmay : may front) (h : x.waiting = front ++ batch :: back) :
      Step sv may x (x.installed sv batch (front ++ back))
  | elsewhere (x : Turnover σ) (o : Office σ) (h : o.workflows = x.office.workflows) :
      Step sv may x { x with office := o }

/-- Any number of steps. -/
abbrev Steps (sv : Services σ) (may : List Batch → Prop) : Turnover σ → Turnover σ → Prop :=
  Relation.ReflTransGen (Step sv may)

/-- Refreshes end in any order. -/
abbrev Overlaps (sv : Services σ) : Turnover σ → Turnover σ → Prop :=
  Steps sv fun _ => True

/-- Refreshes end in the order of their loads. -/
abbrev InTurn (sv : Services σ) : Turnover σ → Turnover σ → Prop :=
  Steps sv (· = [])

theorem InTurn.overlaps {sv : Services σ} {x y : Turnover σ} (h : InTurn sv x y) : Overlaps sv x y := by
  refine Relation.ReflTransGen.mono ?_ x y h
  intro a b hstep
  cases hstep with
  | load hload => exact .load hload
  | fail hload => exact .fail hload
  | install front batch back _ hwaiting => exact .install front batch back trivial hwaiting
  | elsewhere o hsame => exact .elsewhere _ o hsame

/-- A refresh on its own is a load and the end of it. -/
theorem inTurn_refresh {sv : Services σ} {x : Turnover σ} (hnone : x.waiting = [])
    {bindings : List Binding} {after : Office σ}
    (hload : (load sv).run.run x.office = (.ok bindings, after)) :
    InTurn sv x ⟨((refresh sv).run.run x.office).2, x.loads + 1, [], ⟨x.loads, bindings⟩ :: x.used⟩ := by
  have hrefresh : ((refresh sv).run.run x.office).2 = ((install sv bindings).run after).2 := by
    unfold refresh
    rw [Task.run_bind, hload]
    rfl
  have hwaiting : (x.loaded bindings after).waiting = [] ++ ⟨x.loads, bindings⟩ :: [] := by
    rw [loaded, hnone]
  have hinstall : Step sv (· = []) (x.loaded bindings after)
      ((x.loaded bindings after).installed sv ⟨x.loads, bindings⟩ []) := .install [] _ [] rfl hwaiting
  rw [hrefresh]
  exact (Relation.ReflTransGen.single (Step.load hload)).tail hinstall

/-! ## What is in use -/

variable {sv : Services σ} {may : List Batch → Prop} {x y : Turnover σ}

/-- Each load waits or was put into use, once, and what is in use was put into use last. -/
structure Sound (sv : Services σ) (first : Snapshot) (x : Turnover σ) : Prop where
  current : x.office.workflows = (x.used.head?.map fun batch =>
    (Snapshot.build sv.settings.workflowRecursionLimit batch.bindings).2).getD first
  inOrder : (x.waiting.map Batch.number).Pairwise (· < ·)
  numbers : ((x.waiting ++ x.used).map Batch.number).Perm (List.range x.loads)

theorem sound_opening (o : Office σ) : Sound sv o.workflows (opening o) :=
  ⟨rfl, .nil, .refl _⟩

theorem Sound.number_lt {first : Snapshot} (hx : x.Sound sv first) {batch : Batch}
    (hbatch : batch ∈ x.waiting ++ x.used) : batch.number < x.loads :=
  List.mem_range.mp (hx.numbers.subset (List.mem_map_of_mem hbatch))

theorem Sound.nodup {first : Snapshot} (hx : x.Sound sv first) :
    ((x.waiting ++ x.used).map Batch.number).Nodup :=
  hx.numbers.nodup_iff.mpr List.nodup_range

/-- To load changes the world only. -/
theorem workflows_load {o after : Office σ} {result : Except Fault (List Binding)}
    (h : (load sv).run.run o = (result, after)) : after.workflows = o.workflows := by
  have hload : (load sv).run.run o = _ := Task.run_ofAttempt _ o
  rw [hload] at h
  cases h
  rfl

theorem workflows_install (bindings : List Binding) (o : Office σ) :
    ((install sv bindings).run o).2.workflows =
      (Snapshot.build sv.settings.workflowRecursionLimit bindings).2 :=
  rfl

/-- **One step.** -/
theorem Sound.step {first : Snapshot} (hx : x.Sound sv first) (h : Step sv may x y) :
    y.Sound sv first := by
  cases h with
  | @load bindings after hload =>
    refine ⟨(workflows_load hload).trans hx.current, ?_, ?_⟩
    · simp only [loaded, List.map_append, List.map_cons, List.map_nil]
      refine List.pairwise_append.mpr ⟨hx.inOrder, List.pairwise_singleton _ _, ?_⟩
      intro number hnumber last hlast
      obtain ⟨batch, hbatch, rfl⟩ := List.mem_map.mp hnumber
      rw [List.mem_singleton.mp hlast]
      exact hx.number_lt (List.mem_append_left _ hbatch)
    · have hperm : ∀ batch : Batch, (x.waiting ++ [batch] ++ x.used).Perm
          (x.waiting ++ x.used ++ [batch]) := by
        intro batch
        rw [List.append_assoc, List.append_assoc]
        exact List.perm_append_comm.append_left x.waiting
      refine ((hperm ⟨x.loads, bindings⟩).map Batch.number).trans ?_
      rw [List.map_append, loaded, List.range_succ]
      exact hx.numbers.append_right _
  | fail hload => exact ⟨(workflows_load hload).trans hx.current, hx.inOrder, hx.numbers⟩
  | install front batch back _ hwaiting =>
    refine ⟨workflows_install _ _, ?_, ?_⟩
    · refine hx.inOrder.sublist ?_
      rw [hwaiting]
      exact (List.Sublist.append_left (List.sublist_cons_self _ _) front).map Batch.number
    · have hperm : (front ++ back ++ batch :: x.used).Perm (x.waiting ++ x.used) := by
        rw [hwaiting]
        refine List.perm_middle.trans ?_
        rw [← List.cons_append]
        exact (List.perm_middle.symm).append_right x.used
      exact (hperm.map Batch.number).trans hx.numbers
  | elsewhere o hsame => exact ⟨hsame.trans hx.current, hx.inOrder, hx.numbers⟩

/-- **Any number of steps.** -/
theorem Sound.steps {first : Snapshot} (hx : x.Sound sv first) (h : Steps sv may x y) :
    y.Sound sv first := by
  induction h with
  | refl => exact hx
  | tail _ hstep ih => exact ih.step hstep

/-! ## Going back -/

/-- No batch was put into use after one that was loaded later. -/
def Forward (x : Turnover σ) : Prop :=
  x.used.Pairwise fun later earlier => earlier.number < later.number

/-- A batch waits that was loaded before one that was put into use. -/
def Overtaken (x : Turnover σ) : Prop :=
  ∃ old ∈ x.waiting, ∃ new ∈ x.used, old.number < new.number

/-- **Overtaken bindings come back.** A turnover that has not gone back yet may do so in its next step
exactly when a batch waits that was overtaken. -/
theorem goes_back_iff_overtaken {first : Snapshot} (hx : x.Sound sv first) (hforward : x.Forward) :
    (∃ y, Step sv (fun _ => True) x y ∧ ¬ y.Forward) ↔ x.Overtaken := by
  constructor
  · rintro ⟨y, hstep, hback⟩
    cases hstep with
    | load => exact absurd hforward hback
    | fail => exact absurd hforward hback
    | elsewhere => exact absurd hforward hback
    | install front batch back _ hwaiting =>
      have hmem : batch ∈ x.waiting := hwaiting ▸ List.mem_append_right _ List.mem_cons_self
      obtain ⟨new, hnew, hlate⟩ : ∃ new ∈ x.used, ¬ new.number < batch.number := by
        by_contra hnone
        push Not at hnone
        exact hback (List.pairwise_cons.mpr ⟨hnone, hforward⟩)
      -- A batch that waits is not in use, so the two were loaded one after the other.
      have hother : batch.number ≠ new.number := by
        have hnodup := hx.nodup
        rw [List.map_append, List.nodup_append] at hnodup
        exact hnodup.2.2 _ (List.mem_map_of_mem hmem) _ (List.mem_map_of_mem hnew)
      exact ⟨batch, hmem, new, hnew, by omega⟩
  · rintro ⟨old, hold, new, hnew, hlt⟩
    obtain ⟨front, back, hwaiting⟩ := List.append_of_mem hold
    refine ⟨_, .install front old back trivial hwaiting, ?_⟩
    intro hnever
    have hlate := (List.pairwise_cons.mp hnever).1 new hnew
    omega

/-- Everything that was loaded, the last first, when nothing was overtaken. -/
theorem InTurn.order {o : Office σ} (h : InTurn sv (opening o) x) :
    (x.waiting.reverse ++ x.used).map Batch.number = (List.range x.loads).reverse := by
  induction h with
  | refl => rfl
  | tail _ hstep ih =>
    cases hstep with
    | load =>
      simp only [loaded, List.range_succ, List.reverse_concat, List.cons_append, List.map_cons, ih]
    | fail => exact ih
    | install front batch back hmay hwaiting =>
      rw [hmay, List.nil_append] at hwaiting
      rw [hwaiting, List.reverse_cons, List.append_assoc] at ih
      rw [hmay]
      exact ih
    | elsewhere => exact ih

/-- **Refreshes in turn never go back**: when they end in the order of their loads, no snapshot is
replaced by one of an earlier load, and none is going to be. -/
theorem forward_of_inTurn {o : Office σ} (h : InTurn sv (opening o) x) : x.Forward ∧ ¬ x.Overtaken := by
  have hall : ((x.waiting.reverse ++ x.used).map Batch.number).Pairwise fun later earlier =>
      earlier < later := by
    rw [h.order, List.pairwise_reverse]
    exact List.pairwise_lt_range
  obtain ⟨-, hforward, hbefore⟩ := List.pairwise_append.mp (List.pairwise_map.mp hall)
  refine ⟨hforward, ?_⟩
  rintro ⟨old, hold, new, hnew, hlt⟩
  have hlate := hbefore old (List.mem_reverse.mpr hold) new hnew
  omega

/-- A scope that a workflow which compiles was written for. -/
def directBindings : List Binding :=
  [⟨"1", "devbox", 1, none, true, some (directDefinition "direct")⟩]

/-- Two refreshes have loaded, one before the bindings were written and one after that. -/
def bothLoaded : Turnover Rehearsal.Stage :=
  ⟨Rehearsal.office { bindings := directBindings } .empty, 2, [⟨0, []⟩, ⟨1, directBindings⟩], []⟩

theorem overlaps_bothLoaded (settings : Settings) :
    Overlaps (Rehearsal.services settings []) (opening (Rehearsal.office {} .empty)) bothLoaded := by
  let o : Office Rehearsal.Stage := Rehearsal.office {} .empty
  let written : Office Rehearsal.Stage := Rehearsal.office { bindings := directBindings } .empty
  have hfirst : Step (Rehearsal.services settings []) (fun _ => True) (opening o)
      ((opening o).loaded [] o) := .load rfl
  have hwrite : Step (Rehearsal.services settings []) (fun _ => True) ((opening o).loaded [] o)
      { (opening o).loaded [] o with office := written } := .elsewhere _ written rfl
  exact ((Relation.ReflTransGen.single hfirst).tail hwrite).tail (.load rfl)

/-- The refresh that loaded the written bindings ends first, and the other one takes their workflow out
of use again. -/
theorem older_bindings_come_back :
    ∃ settings, Settings.shape (.object []) = .valid settings ∧
      let sv := Rehearsal.services settings []
      ∃ x y, Overlaps sv (opening (Rehearsal.office {} .empty)) x ∧ Step sv (fun _ => True) x y ∧
        x.Forward ∧ x.office.workflows.scopes.has "devbox" = true ∧
        ¬ y.Forward ∧ y.office.workflows.scopes.has "devbox" = false := by
  obtain ⟨settings, hsettings⟩ : ∃ settings, Settings.shape (.object []) = .valid settings := ⟨_, rfl⟩
  refine ⟨settings, hsettings, ?_⟩
  intro sv
  let x := bothLoaded.installed sv ⟨1, directBindings⟩ [⟨0, []⟩]
  have hx : Step sv (fun _ => True) bothLoaded x :=
    .install [⟨0, []⟩] ⟨1, directBindings⟩ [] trivial rfl
  have hy : Step sv (fun _ => True) x (x.installed sv ⟨0, []⟩ []) :=
    .install [] ⟨0, []⟩ [] trivial rfl
  refine ⟨x, _, (overlaps_bothLoaded settings).tail hx, hy, List.pairwise_singleton _ _, rfl, ?_, rfl⟩
  intro hforward
  have hlate := (List.pairwise_cons.mp hforward).1 _ List.mem_cons_self
  exact absurd hlate (by decide)

end Turnover

end Helpdesk.Workflow
