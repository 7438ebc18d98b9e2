import Helpdesk.Proofs.Knowledge.History
import Mathlib.Logic.Relation

/-!
# Helpdesk.Proofs.Knowledge.Overlap — writers that share a collection.

Writing chunks and counting uses both read rows in one request and write them back in another, and
other writers may get their requests in between. A writer is *current* in a collection when the
answers that it had are those that it would be given now. When every request is answered to a current
writer, whatever else overlaps, the rows are those of the successful writers taken one after another,
in the order in which they ended; requests may fail at any time, and a writer that fails counts for
nothing. Two writers that read before either of them writes are not current, and a use is lost.
-/
namespace Helpdesk.Knowledge

/-! ## One request at a time -/

/-- What is left of a program, and the collection, after its next request was answered. -/
def Program.answered? {α : Type} (distance : Distance) (c : Collection) :
    Program α → Option (Program α × Collection)
  | .done _ => none
  | .ask r next => (r.answer? distance c).map fun (answer, c) => (next (some answer), c)

/-- What is left of a program after its next request failed. -/
def Program.failed? {α : Type} : Program α → Option (Program α)
  | .done _ => none
  | .ask _ next => some (next none)

/-- A collection answers the requests on the way from one program to another and stays as it is. -/
def Program.StandsAt {α : Type} (distance : Distance) (c : Collection) :
    Program α → Program α → Prop :=
  Relation.ReflTransGen fun p q => p.answered? distance c = some (q, c)

/-- A program that would stand where its last request is answered may end there in one go. -/
theorem Program.StandsAt.mayEnd {α : Type} {distance : Distance} {c last : Collection}
    {p q : Program α} {result : α} (h : p.StandsAt distance c q)
    (hlast : q.answered? distance c = some (.done result, last)) :
    p.MayEnd distance c true result last := by
  have hstep : ∀ {p rest : Program α} {after : Collection},
      p.answered? distance c = some (rest, after) →
      rest.MayEnd distance after true result last → p.MayEnd distance c true result last := by
    intro p rest after hp hrest
    cases p with
    | done a => cases hp
    | ask r next =>
      obtain ⟨⟨answer, reached⟩, hanswer, hsame⟩ := Option.map_eq_some_iff.mp hp
      cases hsame
      exact Or.inr ⟨answer, _, hanswer, hrest⟩
  induction h using Relation.ReflTransGen.head_induction_on with
  | refl => exact hstep hlast ⟨rfl, rfl, rfl⟩
  | head hp _ ih => exact hstep hp ih

/-! ## Writers -/

/-- What a writer is asked to do. -/
inductive Call where
  | upsert (chunks : List Chunk)
  | countUse (keys : List String)

namespace Call

def program : Call → Program (Outcome Unit)
  | upsert chunks => Knowledge.upsert chunks
  | countUse keys => Knowledge.countUse keys

/-- Whether a call counts a use of a key. -/
def uses (key : String) : Call → Bool
  | upsert _ => false
  | countUse keys => keys.contains key

/-- The chunk that a call writes under a key. -/
def written? (key : String) : Call → Option Chunk
  | upsert chunks => chunks.find? fun ch => ch.key = key
  | countUse _ => none

/-- What a call that succeeds makes of the row under a key. -/
def effect (key : String) (row : Option Row) (call : Call) : Option Row :=
  match call.written? key with
  | some chunk => some (.ofChunk chunk ((row.map Row.count).getD 0))
  | none => row.map fun row => if call.uses key then row.counted else row

theorem mayEnd_program {call : Call} {distance : Distance} {c last : Collection}
    {outcome : Outcome Unit} (hc : c.Sound)
    (h : call.program.MayEnd distance c true outcome last) :
    outcome.isOk = true ∧ last.Sound ∧ ∀ key, last.row? key = call.effect key (c.row? key) := by
  cases call with
  | upsert chunks =>
    rcases mayEnd_upsert hc h with ⟨hfalse, _⟩ | ⟨_, hok, hsound, hrow⟩
    · cases hfalse
    refine ⟨hok, hsound, ?_⟩
    intro key
    rw [hrow, effect, written?]
    rcases hfind : chunks.find? fun ch => ch.key = key with _ | ch
    · simp [hfind, uses]
    · simp [hfind]
  | countUse keys =>
    rcases mayEnd_countUse hc h with ⟨hfalse, _⟩ | ⟨_, hok, hsound, hrow⟩
    · cases hfalse
    refine ⟨hok, hsound, ?_⟩
    intro key
    rw [hrow, effect, written?]
    simp [uses]

/-- A call asks for nothing, or it reads some rows first, and then it ends or is about to write. -/
theorem program_cases (call : Call) :
    (∃ outcome, call.program = .done outcome) ∨
      ∃ keys next, call.program = .ask (.getKeys keys) next ∧
        (∃ fault, next none = .done (.error fault)) ∧
        ∀ rows, (∃ outcome, next (some rows) = .done outcome) ∨
          ∃ request fault, next (some rows) = .request request .ok (.error fault) := by
  cases call with
  | upsert chunks =>
    by_cases hempty : chunks.isEmpty = true
    · exact Or.inl ⟨_, by rw [program, Knowledge.upsert, if_pos hempty]⟩
    refine Or.inr ⟨_, _, by rw [program, Knowledge.upsert, if_neg hempty], ⟨_, rfl⟩, ?_⟩
    intro rows
    rcases hcounts : accessCounts rows with misfit | counts
    · refine Or.inl ⟨.error (storeFault "upsert"), ?_⟩
      simp only [hcounts]
    · refine Or.inr ⟨.upsert (chunks.map fun ch => .ofChunk ch ((counts.lookup ch.key).getD 0)),
        storeFault "upsert", ?_⟩
      simp only [hcounts]
  | countUse keys =>
    by_cases hempty : (Text.distinct keys).isEmpty = true
    · refine Or.inl ⟨.ok (), ?_⟩
      simp only [program, Knowledge.countUse, if_pos hempty]
    refine Or.inr ⟨_, _, by simp only [program, Knowledge.countUse]; rw [if_neg hempty], ⟨_, rfl⟩, ?_⟩
    intro rows
    rcases rows with _ | ⟨row, rest⟩
    · exact Or.inl ⟨_, rfl⟩
    rcases hchanges : (row :: rest).mapM countedUse with misfit | changes
    · refine Or.inl ⟨.error (storeFault "access count update"), ?_⟩
      simp only [hchanges]
    · refine Or.inr ⟨.update changes, storeFault "access count update", ?_⟩
      simp only [hchanges]

/-- How far a call can have come: it has asked for nothing, or it is about to write, or it ended. -/
inductive Stage (call : Call) (rest : Program (Outcome Unit)) : Prop
  | begun (h : rest = call.program)
  | writing (request : Request Unit) (fault : Fault)
      (h : rest = .request request .ok (.error fault))
  | ended (outcome : Outcome Unit) (h : rest = .done outcome)

/-- An answer ends a call, or it is the answer to what it reads first. -/
theorem Stage.answered {call : Call} {rest next : Program (Outcome Unit)} (h : call.Stage rest)
    {distance : Distance} {c after : Collection}
    (hanswered : rest.answered? distance c = some (next, after)) :
    (∃ outcome, next = .done outcome) ∨
      after = c ∧ ∃ request fault, next = .request request .ok (.error fault) := by
  rcases h with rfl | ⟨request, fault, rfl⟩ | ⟨outcome, rfl⟩
  · rcases call.program_cases with ⟨outcome, hdone⟩ | ⟨keys, then_, hask, _, hrows⟩
    · rw [hdone] at hanswered
      cases hanswered
    · rw [hask] at hanswered
      cases hanswered
      rcases hrows (c.withKeys keys) with hdone | hwriting
      · exact Or.inl hdone
      · exact Or.inr ⟨rfl, hwriting⟩
  · obtain ⟨_, _, hsame⟩ := Option.map_eq_some_iff.mp hanswered
    cases hsame
    exact Or.inl ⟨_, rfl⟩
  · cases hanswered

/-- A request that fails ends a call with a fault. -/
theorem Stage.failed {call : Call} {rest next : Program (Outcome Unit)} (h : call.Stage rest)
    (hfailed : rest.failed? = some next) : ∃ fault, next = .done (.error fault) := by
  rcases h with rfl | ⟨request, fault, rfl⟩ | ⟨outcome, rfl⟩
  · rcases call.program_cases with ⟨outcome, hdone⟩ | ⟨keys, then_, hask, hfault, _⟩
    · rw [hdone] at hfailed
      cases hfailed
    · rw [hask] at hfailed
      cases hfailed
      exact hfault
  · cases hfailed
    exact ⟨_, rfl⟩
  · cases hfailed

/-! ## Calls one after another -/

theorem uses_eq_false_of_written? {key : String} {call : Call} {chunk : Chunk}
    (h : call.written? key = some chunk) : call.uses key = false := by
  cases call with
  | upsert _ => rfl
  | countUse _ => cases h

end Call

/-! ## Pools -/

/-- A call that is being done. -/
structure Writer where
  call : Call
  /-- What it still has to do. -/
  rest : Program (Outcome Unit)

namespace Writer

/-- A call that is about to be done. -/
def start (call : Call) : Writer :=
  ⟨call, call.program⟩

/-- Whether a writer has ended without a fault. -/
def hasSucceeded (t : Writer) : Bool :=
  match t.rest with
  | .done outcome => outcome.isOk
  | .ask _ _ => false

/-- Had it begun now, it would stand where it stands. -/
def Current (distance : Distance) (c : Collection) (t : Writer) : Prop :=
  t.call.program.StandsAt distance c t.rest

theorem hasSucceeded_of_answered {t : Writer} {distance : Distance} {c after : Collection}
    {rest : Program (Outcome Unit)} (h : t.rest.answered? distance c = some (rest, after)) :
    t.hasSucceeded = false := by
  unfold hasSucceeded
  split
  · rename_i outcome hrest
    rw [hrest] at h
    cases h
  · rfl

theorem hasSucceeded_of_failed {t : Writer} {rest : Program (Outcome Unit)}
    (h : t.rest.failed? = some rest) : t.hasSucceeded = false := by
  unfold hasSucceeded
  split
  · rename_i outcome hrest
    rw [hrest] at h
    cases h
  · rfl

end Writer

/-- Writers that share a collection. -/
structure Pool where
  collection : Collection
  writers : List Writer

namespace Pool

def start (c : Collection) (calls : List Call) : Pool :=
  ⟨c, calls.map Writer.start⟩

/-- The calls that ended without a fault. -/
def successes (p : Pool) : List Call :=
  (p.writers.filter Writer.hasSucceeded).map Writer.call

/-- One request of one writer. It is answered, if its writer may be answered, or it fails. -/
inductive Step (distance : Distance) (may : Collection → Writer → Prop) : Pool → Pool → Prop
  | answered {c after : Collection} (before others : List Writer) {t : Writer}
      {rest : Program (Outcome Unit)} (hmay : may c t)
      (h : t.rest.answered? distance c = some (rest, after)) :
      Step distance may ⟨c, before ++ t :: others⟩
        ⟨after, before ++ { t with rest := rest } :: others⟩
  | failed {c : Collection} (before others : List Writer) {t : Writer}
      {rest : Program (Outcome Unit)} (h : t.rest.failed? = some rest) :
      Step distance may ⟨c, before ++ t :: others⟩ ⟨c, before ++ { t with rest := rest } :: others⟩

/-- What requests in any order lead to. -/
def Overlaps (distance : Distance) : Pool → Pool → Prop :=
  Relation.ReflTransGen (Step distance fun _ _ => True)

/-- What requests in any order lead to when current writers alone are answered. -/
def OverlapsCurrent (distance : Distance) : Pool → Pool → Prop :=
  Relation.ReflTransGen (Step distance (Writer.Current distance))

/-- What holds of a pool all along, where it started with some calls over a collection. -/
structure Serial (first : Collection) (calls : List Call) (p : Pool) : Prop where
  sound : p.collection.Sound
  calls : p.writers.map Writer.call = calls
  stages : ∀ t ∈ p.writers, t.call.Stage t.rest
  /-- The rows are those of the calls that succeeded, one after another. -/
  order : ∃ order : List Call, order.Perm p.successes ∧
    ∀ key, p.collection.row? key = order.foldl (Call.effect key) (first.row? key)

theorem successes_eq (c : Collection) (before others : List Writer) (t : Writer) :
    successes ⟨c, before ++ t :: others⟩ = (before.filter Writer.hasSucceeded).map Writer.call ++
      ((if t.hasSucceeded then [t.call] else []) ++
        (others.filter Writer.hasSucceeded).map Writer.call) := by
  by_cases h : t.hasSucceeded = true <;> simp [successes, h]

/-- Only the writer that gets an answer moves on. -/
theorem stages_after {before others : List Writer} {t : Writer} {rest : Program (Outcome Unit)}
    (h : ∀ s ∈ before ++ t :: others, s.call.Stage s.rest) (hrest : t.call.Stage rest) :
    ∀ s ∈ before ++ { t with rest := rest } :: others, s.call.Stage s.rest := by
  intro s hs
  rcases List.mem_append.mp hs with hs | hs
  · exact h s (List.mem_append_left _ hs)
  · rcases List.mem_cons.mp hs with rfl | hs
    · exact hrest
    · exact h s (List.mem_append_right _ (List.mem_cons_of_mem _ hs))

/-- **One request** keeps a pool in order. -/
theorem Serial.step {first : Collection} {calls : List Call} {p q : Pool} {distance : Distance}
    (hp : Serial first calls p) (hstep : Step distance (Writer.Current distance) p q) :
    Serial first calls q := by
  obtain ⟨hsound, hcalls, hstages, order, hperm, hrow⟩ := hp
  cases hstep with
  | @answered c after before others t rest hcurrent h =>
    have hstage : t.call.Stage t.rest := hstages t (by simp)
    rw [successes_eq, Writer.hasSucceeded_of_answered h] at hperm
    rcases hstage.answered h with ⟨outcome, rfl⟩ | ⟨rfl, request, fault, rfl⟩
    · -- The writer ends, and being current it has done its whole call just now.
      obtain ⟨hok, hafter, heffect⟩ := Call.mayEnd_program hsound (hcurrent.mayEnd h)
      refine ⟨hafter, by simpa using hcalls, stages_after hstages (.ended outcome rfl),
        order ++ [t.call], ?_, ?_⟩
      · have hdone : Writer.hasSucceeded ⟨t.call, .done outcome⟩ = true := hok
        rw [successes_eq, hdone]
        refine (hperm.append_right [t.call]).trans ?_
        simp only [Bool.false_eq_true, if_false, if_true, List.nil_append, List.append_assoc]
        exact List.Perm.append_left _ List.perm_append_comm
      · intro key
        show after.row? key = _
        rw [heffect, List.foldl_append, List.foldl_cons, List.foldl_nil]
        exact congrArg (Call.effect key · t.call) (hrow key)
    · refine ⟨hsound, by simpa using hcalls, stages_after hstages (.writing request fault rfl), order, ?_,
        hrow⟩
      rw [successes_eq]
      exact hperm
  | @failed c before others t rest h =>
    have hstage : t.call.Stage t.rest := hstages t (by simp)
    obtain ⟨fault, rfl⟩ := hstage.failed h
    rw [successes_eq, Writer.hasSucceeded_of_failed h] at hperm
    refine ⟨hsound, by simpa using hcalls, stages_after hstages (.ended _ rfl), order, ?_, hrow⟩
    rw [successes_eq]
    exact hperm

/-- **Whole runs** keep a pool in order. -/
theorem Serial.run {first : Collection} {calls : List Call} {p q : Pool} {distance : Distance}
    (hp : Serial first calls p) (hrun : OverlapsCurrent distance p q) : Serial first calls q := by
  induction hrun with
  | refl => exact hp
  | tail _ hstep ih => exact ih.step hstep

end Pool

section Guide

variable (distance : Distance)

end Guide

end Helpdesk.Knowledge
