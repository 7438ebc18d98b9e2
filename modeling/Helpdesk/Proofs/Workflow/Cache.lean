import Helpdesk.Proofs.Handoff.Shift
import Helpdesk.Proofs.Keyed
import Helpdesk.Workflow.Refresh
import Mathlib.Logic.Relation

/-!
# Helpdesk.Proofs.Workflow.Cache — which workflows are compiled, and which scopes they answer.

Snapshots are built here with any compiler, in any monad: it may count its calls, or compile a
workflow one time and refuse it the next. Going through the bindings comes to the same as compiling
the first definition of every workflow once and putting the snapshot together from the verdicts
afterwards (`snapshot_buildWith`). What is put together then has every workflow that compiled, and for
a scope the last binding whose workflow is among them, so that no scope is bound to a workflow that is
not there. Offices keep it that way, because their snapshots are only ever replaced as a whole.
-/
namespace Helpdesk.Workflow

variable {σ : Type}

/-- What comes of compiling a workflow. -/
abbrev Verdict := List Notice × Except Flaw Compiled

/-! ## First definitions -/

namespace Definition

/-- The first definition of every workflow that was not seen before. -/
def firstOfEach (seen : List String) : List Definition → List Definition
  | [] => []
  | d :: rest =>
    if d.id ∈ seen then firstOfEach seen rest else d :: firstOfEach (d.id :: seen) rest

theorem mem_firstOfEach_iff {seen : List String} {definitions : List Definition} {d : Definition} :
    d ∈ firstOfEach seen definitions ↔
      d.id ∉ seen ∧ definitions.find? (fun e => e.id = d.id) = some d := by
  induction definitions generalizing seen with
  | nil => simp [firstOfEach]
  | cons e rest ih =>
    unfold firstOfEach
    by_cases hsame : e.id = d.id
    · by_cases hseen : e.id ∈ seen
      · simp [hseen, ih, hsame ▸ hseen]
      · have hfresh : d.id ∉ seen := hsame ▸ hseen
        simp [ih, hsame, hfresh, eq_comm]
    · by_cases hseen : e.id ∈ seen
      · simp [hseen, ih, hsame]
      · have hother : d ≠ e := fun heq => hsame (heq ▸ rfl)
        simp [hseen, ih, hsame, hother, Ne.symm hsame]

theorem nodup_ids_firstOfEach (seen : List String) (definitions : List Definition) :
    ((firstOfEach seen definitions).map Definition.id).Nodup := by
  induction definitions generalizing seen with
  | nil => exact .nil
  | cons d rest ih =>
    unfold firstOfEach
    split
    · exact ih seen
    · refine List.nodup_cons.mpr ⟨?_, ih (d.id :: seen)⟩
      intro hmem
      obtain ⟨e, he, hid⟩ := List.mem_map.mp hmem
      exact (mem_firstOfEach_iff.mp he).1 (hid ▸ List.mem_cons_self)

end Definition

/-- The first definition of every workflow that some bindings have. -/
def firstDefinitions (bindings : List Binding) : List Definition :=
  Definition.firstOfEach [] (bindings.filterMap Binding.workflow)

/-! ## Snapshots from verdicts -/

/-- The workflows that compiled. -/
def compiledOf (verdicts : List (Definition × Verdict)) : Keyed Compiled :=
  verdicts.filterMap fun (d, verdict) => verdict.2.toOption.map fun w => (d.id, w)

theorem mem_names_compiledOf_iff {verdicts : List (Definition × Verdict)} {id : String} :
    id ∈ (compiledOf verdicts).names ↔ ∃ p ∈ verdicts, p.1.id = id ∧ ∃ w, p.2.2 = .ok w := by
  unfold Keyed.names compiledOf
  rw [List.mem_map]
  constructor
  · rintro ⟨entry, hentry, rfl⟩
    obtain ⟨⟨d, notices, flaw | w⟩, hp, hcompiled⟩ := List.mem_filterMap.mp hentry
    · cases hcompiled
    · cases hcompiled
      exact ⟨_, hp, rfl, w, rfl⟩
  · rintro ⟨⟨d, notices, flaw | w⟩, hp, rfl, compiled, hcompiled⟩
    · cases hcompiled
    · exact ⟨(d.id, w), List.mem_filterMap.mpr ⟨_, hp, rfl⟩, rfl⟩

/-- What a binding binds its scope to; nothing without its workflow. -/
def Binding.boundIn (workflows : Keyed Compiled) (b : Binding) : Option ScopeBinding :=
  match b.workflow with
  | none => none
  | some d => if workflows.has d.id then some ⟨b.aiUserId, d.id⟩ else none

theorem Binding.boundIn_eq_some_iff {workflows : Keyed Compiled} {b : Binding} {bound : ScopeBinding} :
    b.boundIn workflows = some bound ↔
      ∃ d, b.workflow = some d ∧ workflows.has d.id = true ∧ bound = ⟨b.aiUserId, d.id⟩ := by
  unfold Binding.boundIn
  rcases b.workflow with _ | d
  · simp
  · by_cases hhas : workflows.has d.id = true
    · simp only [if_pos hhas, Option.some.injEq]
      constructor
      · exact fun h => ⟨d, rfl, hhas, h.symm⟩
      · rintro ⟨e, rfl, -, rfl⟩
        rfl
    · simp [hhas]

/-- Scopes after one more binding. -/
def bindIn (workflows : Keyed Compiled) (scopes : Keyed ScopeBinding) (b : Binding) :
    Keyed ScopeBinding :=
  match b.boundIn workflows with
  | none => scopes
  | some bound => scopes.put b.scope bound

namespace Snapshot

/-- A snapshot with the workflows of further verdicts and the scopes of further bindings. -/
def extend (s : Snapshot) (bindings : List Binding) (verdicts : List (Definition × Verdict)) :
    Snapshot where
  workflows := s.workflows ++ compiledOf verdicts
  scopes := bindings.foldl (bindIn (s.workflows ++ compiledOf verdicts)) s.scopes

/-- The snapshot of some bindings, after the verdicts on their workflows. -/
def ofVerdicts (bindings : List Binding) (verdicts : List (Definition × Verdict)) : Snapshot :=
  extend .empty bindings verdicts

end Snapshot

/-! ## Any compiler -/

namespace SnapshotDraft

/-- A draft after the verdict on the workflow of a binding. -/
def judge (b : Binding) (d : Definition) (draft : SnapshotDraft) : Verdict → SnapshotDraft
  | (notices, .ok compiled) =>
    { draft with
      snapshot := { draft.snapshot with
        workflows := draft.snapshot.workflows.put d.id compiled }
      notices := draft.notices ++ notices }
  | (notices, .error flaw) =>
    { draft with
      failed := d.id :: draft.failed
      notices := draft.notices ++ notices ++ [failureNotice b d.id flaw] }

/-- Whether a workflow was compiled before, well or badly. -/
def knows (draft : SnapshotDraft) (id : String) : Bool :=
  draft.snapshot.workflows.has id || draft.failed.contains id

/-- Adds a binding, with any compiler. -/
def addWith {m : Type → Type} [Monad m] (compiler : Definition → m Verdict) (draft : SnapshotDraft)
    (b : Binding) : m SnapshotDraft :=
  match b.workflow with
  | none => pure draft
  | some d =>
    if draft.knows d.id then pure (bindScope b d.id draft)
    else do return bindScope b d.id (draft.judge b d (← compiler d))

theorem tryCompile_eq (limit : Int) (b : Binding) (d : Definition) (draft : SnapshotDraft) :
    tryCompile limit b d draft =
      if draft.knows d.id then draft else draft.judge b d (d.compile limit) := by
  unfold tryCompile
  by_cases hknown : draft.knows d.id = true
  · rw [if_pos hknown]
    exact if_pos hknown
  · rw [if_neg hknown]
    refine (if_neg hknown).trans ?_
    rcases d.compile limit with ⟨notices, flaw | compiled⟩ <;> rfl

theorem addWith_compile (limit : Int) (draft : SnapshotDraft) (b : Binding) :
    addWith (m := Id) (fun d => d.compile limit) draft b = add limit draft b := by
  unfold addWith add
  rcases b.workflow with _ | d
  · rfl
  · simp only [tryCompile_eq]
    split <;> rfl

/-- A draft in which the workflows that were seen are those that were compiled, each with one
outcome. -/
structure Judged (draft : SnapshotDraft) (seen : List String) : Prop where
  seen : ∀ id, id ∈ seen ↔ id ∈ draft.snapshot.workflows.names ∨ id ∈ draft.failed
  failed : ∀ id ∈ draft.failed, id ∉ draft.snapshot.workflows.names

variable {draft : SnapshotDraft} {seen : List String} {b : Binding} {d : Definition}

theorem Judged.knows_iff (h : draft.Judged seen) (id : String) :
    draft.knows id = true ↔ id ∈ seen := by
  rw [h.seen, knows, Bool.or_eq_true, Keyed.has_iff_mem_names, List.contains_iff_mem]

theorem bindScope_workflows (id : String) :
    (bindScope b id draft).snapshot.workflows = draft.snapshot.workflows := by
  unfold bindScope
  split <;> rfl

theorem Judged.bindScope (h : draft.Judged seen) (id : String) :
    (SnapshotDraft.bindScope b id draft).Judged seen := by
  unfold SnapshotDraft.bindScope
  split
  · exact h
  · exact ⟨h.seen, h.failed⟩

theorem judge_workflows (h : draft.Judged seen) (hfresh : d.id ∉ seen) (verdict : Verdict) :
    (draft.judge b d verdict).snapshot.workflows =
      draft.snapshot.workflows ++ compiledOf [(d, verdict)] := by
  obtain ⟨notices, flaw | compiled⟩ := verdict
  · exact (List.append_nil _).symm
  · exact Keyed.put_of_get?_eq_none
      (Keyed.get?_eq_none_iff.mpr fun hmem => hfresh ((h.seen _).mpr (Or.inl hmem)))

theorem judge_scopes (verdict : Verdict) :
    (draft.judge b d verdict).snapshot.scopes = draft.snapshot.scopes := by
  obtain ⟨notices, flaw | compiled⟩ := verdict <;> rfl

theorem Judged.judge (h : draft.Judged seen) (hfresh : d.id ∉ seen) (verdict : Verdict) :
    (draft.judge b d verdict).Judged (d.id :: seen) := by
  have habsent : d.id ∉ draft.snapshot.workflows.names := fun hmem =>
    hfresh ((h.seen _).mpr (Or.inl hmem))
  have hnew : d.id ∉ draft.failed := fun hmem => hfresh ((h.seen _).mpr (Or.inr hmem))
  obtain ⟨notices, flaw | compiled⟩ := verdict
  · refine ⟨fun id => ?_, fun id hid => ?_⟩
    · show id ∈ d.id :: seen ↔ id ∈ draft.snapshot.workflows.names ∨ id ∈ d.id :: draft.failed
      rw [List.mem_cons, List.mem_cons, h.seen]
      exact or_left_comm
    · rcases List.mem_cons.mp hid with rfl | hid
      · exact habsent
      · exact h.failed id hid
  · have hnames : (draft.judge b d (notices, .ok compiled)).snapshot.workflows.names =
        draft.snapshot.workflows.names ++ [d.id] :=
      Keyed.names_put_of_get?_eq_none (Keyed.get?_eq_none_iff.mpr habsent)
    refine ⟨fun id => ?_, fun id hid => ?_⟩
    · rw [hnames, List.mem_append, List.mem_singleton, List.mem_cons, h.seen]
      show _ ↔ _ ∨ id ∈ draft.failed
      rw [or_right_comm]
      exact or_comm
    · rw [hnames, List.mem_append, List.mem_singleton]
      rintro (hmem | rfl)
      · exact h.failed id hid hmem
      · exact hnew hid

/-- A workflow that was seen is in the snapshot exactly if it did not fail, whatever is compiled
later. -/
theorem bindIn_of_seen (h : draft.Judged seen) (hb : b.workflow = some d) (hseen : d.id ∈ seen)
    {verdicts : List (Definition × Verdict)} (hlater : ∀ p ∈ verdicts, p.1.id ∉ seen) :
    bindIn (draft.snapshot.workflows ++ compiledOf verdicts) draft.snapshot.scopes b =
      (bindScope b d.id draft).snapshot.scopes := by
  have hhas : (draft.snapshot.workflows ++ compiledOf verdicts).has d.id = true ↔
      ¬ draft.failed.contains d.id = true := by
    rw [Keyed.has_iff_mem_names, Keyed.names, List.map_append, List.mem_append,
      List.contains_iff_mem]
    constructor
    · rintro (hmem | hmem) hfailed
      · exact h.failed d.id hfailed hmem
      · obtain ⟨p, hp, hid, -⟩ := mem_names_compiledOf_iff.mp hmem
        exact hlater p hp (hid ▸ hseen)
    · intro hfine
      exact Or.inl (((h.seen d.id).mp hseen).resolve_right hfine)
  unfold bindIn Binding.boundIn bindScope
  rw [hb]
  by_cases hfailed : draft.failed.contains d.id = true
  · simp only [if_pos hfailed, if_neg fun hfound => hhas.mp hfound hfailed]
  · simp only [if_neg hfailed, if_pos (hhas.mpr hfailed)]

theorem extend_of_seen (h : draft.Judged seen) (hb : b.workflow = some d) (hseen : d.id ∈ seen)
    (rest : List Binding) {verdicts : List (Definition × Verdict)}
    (hlater : ∀ p ∈ verdicts, p.1.id ∉ seen) :
    draft.snapshot.extend (b :: rest) verdicts =
      (bindScope b d.id draft).snapshot.extend rest verdicts := by
  unfold Snapshot.extend
  rw [List.foldl_cons, bindIn_of_seen h hb hseen hlater, bindScope_workflows]

theorem extend_of_fresh (h : draft.Judged seen) (hb : b.workflow = some d) (hfresh : d.id ∉ seen)
    (rest : List Binding) (verdict : Verdict) {verdicts : List (Definition × Verdict)}
    (hlater : ∀ p ∈ verdicts, p.1.id ∉ d.id :: seen) :
    draft.snapshot.extend (b :: rest) ((d, verdict) :: verdicts) =
      (bindScope b d.id (draft.judge b d verdict)).snapshot.extend rest verdicts := by
  have hcompiled : compiledOf ((d, verdict) :: verdicts) =
      compiledOf [(d, verdict)] ++ compiledOf verdicts :=
    List.filterMap_append (l := [(d, verdict)])
  rw [← extend_of_seen (h.judge hfresh verdict) hb List.mem_cons_self rest hlater]
  unfold Snapshot.extend
  rw [judge_workflows h hfresh, judge_scopes, hcompiled, List.append_assoc]

end SnapshotDraft

namespace Snapshot

variable {m : Type → Type} [Monad m]

/-- The snapshot of some bindings with any compiler, and what is noted while it is built. -/
def buildWith (compiler : Definition → m Verdict) (bindings : List Binding) :
    m (List Notice × Snapshot) := do
  let draft ← bindings.foldlM (SnapshotDraft.addWith compiler) ⟨.empty, [], []⟩
  return (draft.notices, draft.snapshot)

theorem buildWith_compile (limit : Int) (bindings : List Binding) :
    buildWith (m := Id) (fun d => d.compile limit) bindings = build limit bindings := by
  have hfold : ∀ draft, bindings.foldlM (m := Id)
      (SnapshotDraft.addWith fun d => d.compile limit) draft =
        bindings.foldl (SnapshotDraft.add limit) draft := by
    induction bindings with
    | nil => exact fun draft => rfl
    | cons b rest ih =>
      intro draft
      show List.foldlM (m := Id) _ (SnapshotDraft.addWith (m := Id) _ draft b) rest = _
      rw [SnapshotDraft.addWith_compile, ih]
      rfl
  unfold buildWith build
  show (fun draft : SnapshotDraft => (draft.notices, draft.snapshot)) (List.foldlM (m := Id) _ _ _) = _
  rw [hfold]

variable [LawfulMonad m]

/-- What is still to be compiled is compiled once, and the rest is known from the draft. -/
theorem snapshot_foldlM_addWith (compiler : Definition → m Verdict) (bindings : List Binding)
    {draft : SnapshotDraft} {seen : List String} (h : draft.Judged seen) :
    SnapshotDraft.snapshot <$> bindings.foldlM (SnapshotDraft.addWith compiler) draft =
      (fun verdicts => draft.snapshot.extend bindings
        ((Definition.firstOfEach seen (bindings.filterMap Binding.workflow)).zip verdicts)) <$>
        (Definition.firstOfEach seen (bindings.filterMap Binding.workflow)).mapM compiler := by
  have hlater : ∀ (seen : List String) (definitions : List Definition) (verdicts : List Verdict),
      ∀ p ∈ (Definition.firstOfEach seen definitions).zip verdicts, p.1.id ∉ seen :=
    fun seen definitions verdicts p hp =>
      (Definition.mem_firstOfEach_iff.mp (List.of_mem_zip hp).1).1
  -- On the bindings still to come, for any draft: what was seen is all that the rest needs of it.
  induction bindings generalizing draft seen with
  | nil =>
    have hnone : draft.snapshot.extend [] [] = draft.snapshot := by
      unfold extend
      rw [show compiledOf [] = [] from rfl, List.append_nil]
      rfl
    simp only [List.foldlM_nil, List.filterMap_nil, Definition.firstOfEach, List.mapM_nil, map_pure,
      List.zip_nil_left, hnone]
  | cons b rest ih =>
    rw [List.foldlM_cons]
    rcases hb : b.workflow with _ | d
    · have hskip : ∀ verdicts, draft.snapshot.extend (b :: rest) verdicts =
          draft.snapshot.extend rest verdicts := by
        intro verdicts
        unfold extend
        rw [List.foldl_cons, bindIn, Binding.boundIn, hb]
      rw [SnapshotDraft.addWith, hb, List.filterMap_cons_none hb]
      simp only [pure_bind, ih h, hskip]
    rw [SnapshotDraft.addWith, hb, List.filterMap_cons_some hb, Definition.firstOfEach]
    by_cases hseen : d.id ∈ seen
    · simp only [if_pos hseen, if_pos ((h.knows_iff d.id).mpr hseen), pure_bind, ih (h.bindScope d.id),
        SnapshotDraft.extend_of_seen h hb hseen rest (hlater _ _ _)]
    · have hknown : ¬ draft.knows d.id = true := fun hknown => hseen ((h.knows_iff d.id).mp hknown)
      simp only [if_neg hseen, if_neg hknown, List.mapM_cons, map_eq_pure_bind, bind_assoc, pure_bind,
        List.zip_cons_cons, SnapshotDraft.extend_of_fresh h hb hseen rest _ (hlater _ _ _)]
      -- The verdict is there, and what follows it starts from the draft after it.
      refine bind_congr fun verdict => ?_
      rw [← map_eq_pure_bind, ← map_eq_pure_bind]
      exact ih ((h.judge hseen verdict).bindScope d.id)

/-- **Each workflow is compiled once**, from the first binding that has it, and the snapshot is put
together from the verdicts. -/
theorem snapshot_buildWith (compiler : Definition → m Verdict) (bindings : List Binding) :
    Prod.snd <$> buildWith compiler bindings =
      (fun verdicts => ofVerdicts bindings ((firstDefinitions bindings).zip verdicts)) <$>
        (firstDefinitions bindings).mapM compiler := by
  have hfresh : SnapshotDraft.Judged ⟨.empty, [], []⟩ [] :=
    ⟨fun id => ⟨fun hid => (by cases hid), fun hid => (by rcases hid with h | h <;> cases h)⟩,
      fun id hid => by cases hid⟩
  unfold buildWith
  rw [map_bind]
  simp only [map_pure, ← map_eq_pure_bind]
  exact snapshot_foldlM_addWith compiler bindings hfresh

end Snapshot

/-! ## Scopes -/

/-- The last binding of a scope whose workflow is there is the one that counts. -/
theorem get?_foldl_bindIn (workflows : Keyed Compiled) (bindings : List Binding)
    (scopes : Keyed ScopeBinding) (scope : String) :
    (bindings.foldl (bindIn workflows) scopes).get? scope =
      ((bindings.filter fun b => b.scope = scope).filterMap
        (Binding.boundIn workflows)).getLast?.or (scopes.get? scope) := by
  induction bindings generalizing scopes with
  | nil => rfl
  | cons b rest ih =>
    rw [List.foldl_cons, ih, bindIn]
    by_cases hscope : b.scope = scope
    · rw [List.filter_cons_of_pos (by simpa using hscope)]
      rcases hbound : b.boundIn workflows with _ | bound
      · rw [List.filterMap_cons_none hbound]
      · rw [List.filterMap_cons_some hbound, Keyed.get?_put, if_pos hscope, List.getLast?_cons]
        rcases (List.filterMap _ _).getLast? <;> rfl
    · rw [List.filter_cons_of_neg (by simpa using hscope)]
      rcases b.boundIn workflows with _ | bound
      · rfl
      · rw [Keyed.get?_put, if_neg hscope]

namespace Snapshot

/-- A snapshot in which every scope is bound to a workflow that is there. -/
def Resolved (s : Snapshot) : Prop :=
  ∀ bound ∈ s.scopes.entries, s.workflows.has bound.workflowId = true

theorem resolved_empty : empty.Resolved :=
  fun _ hbound => absurd hbound List.not_mem_nil

theorem resolved_ofVerdicts (bindings : List Binding) (verdicts : List (Definition × Verdict)) :
    (ofVerdicts bindings verdicts).Resolved := by
  have hfold : ∀ (workflows : Keyed Compiled) (scopes : Keyed ScopeBinding),
      (∀ bound ∈ scopes.entries, workflows.has bound.workflowId = true) →
      ∀ bound ∈ (bindings.foldl (bindIn workflows) scopes).entries,
        workflows.has bound.workflowId = true := by
    intro workflows
    induction bindings with
    | nil => exact fun scopes h => h
    | cons b rest ih =>
      intro scopes h
      refine ih (bindIn workflows scopes b) ?_
      unfold bindIn
      rcases hbound : b.boundIn workflows with _ | bound
      · exact h
      · intro other hother
        rcases Keyed.eq_or_mem_of_mem_entries_put hother with rfl | hother
        · obtain ⟨d, -, hhas, rfl⟩ := Binding.boundIn_eq_some_iff.mp hbound
          exact hhas
        · exact h other hother
  exact hfold _ [] fun _ hbound => absurd hbound List.not_mem_nil

/-- A scope with a name is bound exactly if a workflow answers it. -/
theorem Resolved.has_iff {s : Snapshot} (h : s.Resolved) {scope : String} (hscope : scope ≠ "") :
    s.scopes.has scope = true ↔ s.workflow? (some scope) ≠ none := by
  have hnamed : (some scope).filter (!·.isEmpty) = some scope := by simp [hscope]
  unfold workflow? Keyed.has
  rw [hnamed]
  rcases hbound : s.scopes.get? scope with _ | bound
  · simp [hbound]
  · have hhas := h bound (Keyed.mem_entries_of_get?_eq_some hbound)
    obtain ⟨w, hw⟩ := Option.isSome_iff_exists.mp hhas
    simp [hbound, hw]

/-- What is put into use: each workflow is compiled from its first definition. -/
theorem snd_build (limit : Int) (bindings : List Binding) :
    (build limit bindings).2 = ofVerdicts bindings
      ((firstDefinitions bindings).zip ((firstDefinitions bindings).map fun d => d.compile limit)) := by
  have hbuild := snapshot_buildWith (m := Id) (fun d => d.compile limit) bindings
  rw [buildWith_compile] at hbuild
  refine Eq.trans (b := (Prod.snd <$> build limit bindings : Id Snapshot)) rfl (hbuild.trans ?_)
  have hverdicts : (firstDefinitions bindings).mapM (m := Id) (fun d => d.compile limit) =
      (firstDefinitions bindings).map fun d => d.compile limit := List.idRun_mapM
  rw [hverdicts]
  rfl

end Snapshot

/-! ## Offices -/

/-- Workflows are replaced when the bindings could be loaded, and stay as they are when not. -/
theorem run_refresh (sv : Services σ) (o : Office σ) :
    (∃ fault world, (load sv).run.run o = (.error fault, { o with world := world }) ∧
      (refresh sv).run.run o = (.error fault, { o with world := world })) ∨
    ∃ bindings world told, (load sv).run.run o = (.ok bindings, { o with world := world }) ∧
      (refresh sv).run.run o = (.ok (), { o with
        world := told
        workflows := (Snapshot.build sv.settings.workflowRecursionLimit bindings).2 }) := by
  have hload : (load sv).run.run o = _ := Task.run_ofAttempt _ o
  unfold refresh
  rw [Task.run_bind, hload]
  rcases (Attempt.ask sv.bindings).run.run o.world with ⟨fault | bindings, world⟩
  · exact Or.inl ⟨fault, world, rfl, rfl⟩
  · exact Or.inr ⟨bindings, world, _, rfl, rfl⟩

/-- What can be done about workflows, and everything else that is done. -/
inductive CacheStep : Office σ → Office σ → Prop
  | refresh (sv : Services σ) (o : Office σ) : CacheStep o ((refresh sv).run.run o).2
  | clear (o : Office σ) : CacheStep o (clear.run o).2
  | elsewhere {o after : Office σ} (h : after.workflows = o.workflows) : CacheStep o after

/-- Any number of steps. -/
abbrev CacheSteps : Office σ → Office σ → Prop := Relation.ReflTransGen CacheStep

/-- **One step** leaves no scope bound to a workflow that is not there. -/
theorem resolved_step {o after : Office σ} (h : o.workflows.Resolved) (hstep : CacheStep o after) :
    after.workflows.Resolved := by
  cases hstep with
  | refresh sv =>
    rcases run_refresh sv o with ⟨fault, world, -, hrun⟩ | ⟨bindings, world, told, -, hrun⟩
    · rw [hrun]
      exact h
    · rw [hrun]
      show (Snapshot.build _ bindings).2.Resolved
      rw [Snapshot.snd_build]
      exact Snapshot.resolved_ofVerdicts _ _
  | clear => exact Snapshot.resolved_empty
  | elsewhere hsame => exact hsame ▸ h

/-- **Any number of steps.** -/
theorem resolved_steps {first last : Office σ} (h : first.workflows.Resolved)
    (hsteps : CacheSteps first last) : last.workflows.Resolved := by
  induction hsteps with
  | refl => exact h
  | tail _ hstep ih => exact resolved_step ih hstep

/-- **The cache follows the bindings.** Whatever the compiler does, it is asked once for every
workflow, with its first definition, and the snapshot comes of its verdicts: it holds the workflows
that compiled, and binds a scope to what the last binding of the scope says whose workflow is among
them. A refresh puts the snapshot of the bindings that were loaded in the place of the old one and
does not fail, unless the bindings cannot be loaded; the old one stays then. So from an office without
workflows on, whatever is refreshed from whichever bindings, or cleared, or done besides, every scope is
bound to a workflow that is there, and a scope with a name is bound exactly if it has a workflow. -/
theorem cache_follows_bindings {m : Type → Type} [Monad m] [LawfulMonad m]
    (compiler : Definition → m Verdict) (bindings : List Binding) (sv : Services σ) (o : Office σ)
    {first last : Office σ} (hfirst : first.workflows = .empty) (hlast : CacheSteps first last) :
    Prod.snd <$> Snapshot.buildWith compiler bindings =
        (fun verdicts => Snapshot.ofVerdicts bindings ((firstDefinitions bindings).zip verdicts)) <$>
          (firstDefinitions bindings).mapM compiler ∧
      ((firstDefinitions bindings).map Definition.id).Nodup ∧
      (∀ d, d ∈ firstDefinitions bindings ↔
        (bindings.filterMap Binding.workflow).find? (fun e => e.id = d.id) = some d) ∧
      (∀ verdicts,
        (∀ id, (Snapshot.ofVerdicts bindings verdicts).workflows.has id = true ↔
          ∃ p ∈ verdicts, p.1.id = id ∧ ∃ w, p.2.2 = .ok w) ∧
        ∀ scope, (Snapshot.ofVerdicts bindings verdicts).scopes.get? scope =
          ((bindings.filter fun b => b.scope = scope).filterMap
            (Binding.boundIn (Snapshot.ofVerdicts bindings verdicts).workflows)).getLast?) ∧
      (∀ fault after, (load sv).run.run o = (.error fault, after) →
        (refresh sv).run.run o = (.error fault, after) ∧ after.workflows = o.workflows) ∧
      (∀ loaded after, (load sv).run.run o = (.ok loaded, after) →
        ((refresh sv).run.run o).1 = .ok () ∧
          ((refresh sv).run.run o).2.workflows = Snapshot.ofVerdicts loaded
            ((firstDefinitions loaded).zip ((firstDefinitions loaded).map fun d =>
              d.compile sv.settings.workflowRecursionLimit))) ∧
      last.workflows.Resolved ∧
      ∀ scope, scope ≠ "" → (last.workflows.scopes.has scope = true ↔
        last.workflows.workflow? (some scope) ≠ none) := by
  have hresolved : last.workflows.Resolved :=
    resolved_steps (hfirst ▸ Snapshot.resolved_empty) hlast
  refine ⟨Snapshot.snapshot_buildWith compiler bindings, Definition.nodup_ids_firstOfEach _ _, ?_,
    fun verdicts => ⟨fun id => ?_, fun scope => ?_⟩, ?_, ?_, hresolved,
    fun scope hscope => hresolved.has_iff hscope⟩
  · intro d
    unfold firstDefinitions
    rw [Definition.mem_firstOfEach_iff]
    exact and_iff_right List.not_mem_nil
  · rw [Keyed.has_iff_mem_names]
    exact mem_names_compiledOf_iff
  · exact (get?_foldl_bindIn _ bindings [] scope).trans (Option.or_none)
  · intro fault after hload
    rcases run_refresh sv o with ⟨other, world, hfailed, hrun⟩ | ⟨loaded, world, told, hloaded, -⟩
    · rw [hfailed] at hload
      cases hload
      exact ⟨hrun, rfl⟩
    · rw [hloaded] at hload
      cases hload
  · intro loaded after hload
    rcases run_refresh sv o with ⟨other, world, hfailed, -⟩ | ⟨found, world, told, hloaded, hrun⟩
    · rw [hfailed] at hload
      cases hload
    · rw [hloaded] at hload
      cases hload
      rw [hrun]
      exact ⟨rfl, Snapshot.snd_build _ loaded⟩

/-- A workflow that ends at once. -/
def directDefinition (id : String) : Definition :=
  ⟨id, "", [⟨"start", none, .start⟩, ⟨"end", none, .finish⟩],
    [⟨"edge", "start", "end", none, none, none⟩]⟩

/-- Bindings with a workflow that has no nodes, and with two definitions of another one. -/
def repeatedBindings : List Binding :=
  [⟨"1", "devbox", 1, none, true, some (directDefinition "direct")⟩,
    ⟨"2", "devbox", 2, none, true, some ⟨"blank", "", [], []⟩⟩,
    ⟨"3", "app", 3, none, true, some ⟨"direct", "", [], []⟩⟩, ⟨"4", "app", 4, none, true, none⟩]

/-- A compiler that writes down what it is asked for. -/
def journaling (d : Definition) : StateM (List String) Verdict := do
  modify (· ++ [d.id])
  return d.compile 10

theorem cache_follows_bindings_repeated :
    ∃ settings, Settings.shape (.object []) = .valid settings ∧
      let sv := { Shift.quietServices settings with bindings := pure repeatedBindings }
      let o : Office Unit := ⟨⟨(), [], []⟩, .empty, .empty, .empty⟩
      let after := ((refresh sv).run.run o).2
      ((Prod.snd <$> Snapshot.buildWith journaling repeatedBindings).run []).2 = ["direct", "blank"] ∧
        ((refresh sv).run.run o).1 = .ok () ∧
        (after.workflows.scopes.has "app" = true ↔ after.workflows.workflow? (some "app") ≠ none) := by
  obtain ⟨settings, hsettings⟩ : ∃ settings, Settings.shape (.object []) = .valid settings := ⟨_, rfl⟩
  refine ⟨settings, hsettings, ?_⟩
  intro sv o after
  have hsteps : CacheSteps o after := .single (.refresh sv o)
  obtain ⟨hcalls, -, -, -, -, hloaded, -, hscopes⟩ :=
    cache_follows_bindings journaling repeatedBindings sv o rfl hsteps
  refine ⟨?_, (hloaded repeatedBindings o rfl).1, hscopes "app" (by decide)⟩
  rw [hcalls]
  rfl

end Helpdesk.Workflow
