import Helpdesk.Proofs.Answering.Production
import Helpdesk.Proofs.Workflow.Cache
import Mathlib.Data.Nat.Find

/-!
# Helpdesk.Proofs.Answering.Attempts — the first attempt that gives a reply.

An attempt runs the workflow of a ticket from a fresh state, and all that it takes from the attempts
before it is the office that they left. So the attempts at an answer are a sequence that goes on for
ever, told without saying where it is left off: it is left off at the first reply, or when all
attempts that may be made have been made.
-/
namespace Helpdesk

open Conversation Workflow

variable {σ : Type}

/-! ## Outcomes -/

/-- A run ended with a reply. -/
def Gives (result : Except Fault State) (text : String) : Prop :=
  ∃ s, result = .ok s ∧ s.fields.response = some (.text text) ∧ text ≠ ""

/-- A run ended without a reply: with no response or an empty one, or with a fault. -/
def Misses (result : Except Fault State) : Prop :=
  (∃ s, result = .ok s ∧ (s.fields.response = none ∨ s.fields.response = some (.text ""))) ∨
    ∃ fault, result = .error fault

theorem replied?_eq_some_iff {result : Except Fault State} {text : String} :
    replied? result = some text ↔ Gives result text := by
  constructor
  · intro h
    obtain ⟨s, rfl, hresponse⟩ := response_of_replied? h
    have hkept : (some (replyOf s)).filter (!·.isEmpty) = some text := h
    exact ⟨s, rfl, hresponse, by simpa using (Option.filter_eq_some_iff.mp hkept).2⟩
  · rintro ⟨s, rfl, hresponse, hne⟩
    simp [replied?, replyOf, hresponse, Value.text?, hne]

theorem replied?_eq_none_iff {result : Except Fault State} :
    replied? result = none ↔ ∀ text, ¬ Gives result text := by
  simp only [Option.eq_none_iff_forall_ne_some, ne_eq, replied?_eq_some_iff]

/-! ## Attempts -/

section

variable (sv : Services σ) (w : Compiled) (t : Ticket) (turns : List Turn)

/-- An attempt in an office: what the run of the workflow ends with, and the office afterwards. -/
def attemptIn (o : Office σ) : Except Fault State × Office σ :=
  (w.invoke sv (.start turns t.summary [])).run.run o

/-- The office that the attempt of a number starts in when no attempt before it gave a reply: the one
that the attempt before it left, where it was noted what became of that. -/
def officeAt (o : Office σ) : ℕ → Office σ
  | 0 => o
  | n + 1 =>
    let (result, after) := attemptIn sv w t turns (officeAt o n)
    after.told [attemptNotice w t n result]

/-- What the attempt of a number ends with. -/
def outcomeAt (o : Office σ) (n : ℕ) : Except Fault State :=
  (attemptIn sv w t turns (officeAt sv w t turns o n)).1

/-- The office after the attempt of a number. -/
def officeAfter (o : Office σ) (n : ℕ) : Office σ :=
  (attemptIn sv w t turns (officeAt sv w t turns o n)).2

variable {sv w t turns} {o : Office σ} {n : ℕ}

/-- A response is a text, so an attempt without a reply can have ended in no other way. -/
theorem misses_of_not_gives (h : ∀ text, ¬ Gives (outcomeAt sv w t turns o n) text) :
    Misses (outcomeAt sv w t turns o n) := by
  rcases hresult : outcomeAt sv w t turns o n with fault | s
  · exact Or.inr ⟨fault, rfl⟩
  · refine Or.inl ⟨s, rfl, ?_⟩
    rcases hresponse : s.fields.response with _ | v
    · exact Or.inl rfl
    · obtain ⟨text, rfl⟩ := answersText_of_invoke hresult v hresponse
      have hempty : text = "" := by
        by_contra hne
        exact h text ⟨s, hresult, hresponse, hne⟩
      exact Or.inr (by rw [hempty])

/-- **One attempt**: a reply ends the attempts, and without one the next attempt is made. -/
theorem run_firstReply_succ (attempts : ℕ) :
    (firstReply sv w t turns n (attempts + 1)).run (officeAt sv w t turns o n) =
      match replied? (outcomeAt sv w t turns o n) with
      | some text => (some text, officeAfter sv w t turns o n)
      | none => (firstReply sv w t turns (n + 1) attempts).run (officeAt sv w t turns o (n + 1)) := by
  rw [firstReply, Duty.run_bind, Duty.run_outcome]
  show (match replied? (outcomeAt sv w t turns o n) with
    | some text => _
    | none => _ : Duty σ (Option String)).run _ = _
  rcases replied? (outcomeAt sv w t turns o n) with _ | text <;> rfl

/-- Attempts end with the first reply. -/
theorem run_firstReply_of_gives {attempts more : ℕ} {text : String} (hmore : more < attempts)
    (hnone : ∀ m, n ≤ m → m < n + more → ∀ text, ¬ Gives (outcomeAt sv w t turns o m) text)
    (hgives : Gives (outcomeAt sv w t turns o (n + more)) text) :
    (firstReply sv w t turns n attempts).run (officeAt sv w t turns o n) =
      (some text, officeAfter sv w t turns o (n + more)) := by
  induction more generalizing n attempts with
  | zero =>
    obtain ⟨attempts, rfl⟩ := Nat.exists_eq_succ_of_ne_zero (Nat.ne_of_gt hmore)
    rw [Nat.add_zero] at hgives ⊢
    rw [run_firstReply_succ, replied?_eq_some_iff.mpr hgives]
  | succ more ih =>
    obtain ⟨attempts, rfl⟩ := Nat.exists_eq_succ_of_ne_zero (Nat.ne_of_gt (Nat.zero_lt_of_lt hmore))
    rw [run_firstReply_succ, replied?_eq_none_iff.mpr (hnone n (Nat.le_refl n) (by omega))]
    rw [show n + (more + 1) = n + 1 + more by omega] at hnone hgives ⊢
    exact ih (by omega) (fun m hm => hnone m (by omega)) hgives

/-- Attempts without a reply are all made. -/
theorem run_firstReply_of_none {attempts : ℕ}
    (hnone : ∀ m, n ≤ m → m < n + attempts → ∀ text, ¬ Gives (outcomeAt sv w t turns o m) text) :
    (firstReply sv w t turns n attempts).run (officeAt sv w t turns o n) =
      (none, officeAt sv w t turns o (n + attempts)) := by
  induction attempts generalizing n with
  | zero => rfl
  | succ attempts ih =>
    rw [run_firstReply_succ, replied?_eq_none_iff.mpr (hnone n (Nat.le_refl n) (by omega))]
    rw [show n + (attempts + 1) = n + 1 + attempts by omega] at hnone ⊢
    exact ih fun m hm => hnone m (by omega)

/-- Attempts are made up to the first reply, or all of them are. -/
theorem run_firstReply_cases (retries : ℕ) :
    (∃ n text, n ≤ retries ∧ (∀ m < n, Misses (outcomeAt sv w t turns o m)) ∧
      Gives (outcomeAt sv w t turns o n) text ∧
      (firstReply sv w t turns 0 (retries + 1)).run o =
        (some text, officeAfter sv w t turns o n)) ∨
    (∀ n ≤ retries, Misses (outcomeAt sv w t turns o n)) ∧
      (firstReply sv w t turns 0 (retries + 1)).run o =
        (none, officeAt sv w t turns o (retries + 1)) := by
  by_cases hsome : ∃ n, n ≤ retries ∧ ∃ text, Gives (outcomeAt sv w t turns o n) text
  · classical
    obtain ⟨hle, text, hgives⟩ := Nat.find_spec hsome
    have hfirst : ∀ m < Nat.find hsome, ∀ text, ¬ Gives (outcomeAt sv w t turns o m) text :=
      fun m hm text hm' => Nat.find_min hsome hm ⟨by omega, text, hm'⟩
    refine Or.inl ⟨Nat.find hsome, text, hle, fun m hm => misses_of_not_gives (hfirst m hm), hgives,
      ?_⟩
    have hrun := run_firstReply_of_gives (n := 0) (o := o) (Nat.lt_succ_of_le hle)
      (fun m _ hm => hfirst m (by omega)) (by rwa [Nat.zero_add])
    rwa [Nat.zero_add] at hrun
  · have hnone : ∀ n ≤ retries, ∀ text, ¬ Gives (outcomeAt sv w t turns o n) text :=
      fun n hn text hgives => hsome ⟨n, hn, text, hgives⟩
    have hall : ∀ m, 0 ≤ m → m < 0 + (retries + 1) →
        ∀ text, ¬ Gives (outcomeAt sv w t turns o m) text := fun m _ hm => hnone m (by omega)
    have hrun := run_firstReply_of_none hall
    rw [Nat.zero_add] at hrun
    exact Or.inr ⟨fun n hn => misses_of_not_gives (hnone n hn), hrun⟩

end

/-! ## The workflow that is run -/

/-- A scope with a name is bound to a workflow. -/
def Workflow.Snapshot.Binds (s : Snapshot) (scope : String) (w : Compiled) : Prop :=
  scope ≠ "" ∧ ∃ bound, s.scopes.get? scope = some bound ∧
    s.workflows.get? bound.workflowId = some w

theorem Workflow.Snapshot.workflow?_eq_some_iff {s : Snapshot} {scope : Option String} {w : Compiled} :
    s.workflow? scope = some w ↔ ∃ name, scope = some name ∧ s.Binds name w := by
  unfold workflow? Binds
  rcases scope with _ | name
  · simp
  · by_cases hname : name = ""
    · have hdropped : (some name).filter (!·.isEmpty) = none := by simp [hname]
      rw [hdropped]
      simp [hname]
    · have hkept : (some name).filter (!·.isEmpty) = some name := by simp [hname]
      rw [hkept]
      simp [hname, Option.bind_eq_some_iff]

/-- The workflow that a ticket is answered by: that of its module when this is a bound scope with a
name, and otherwise that of the fallback scope. -/
structure AnsweredBy (s : Snapshot) (fallback : String) (t : Ticket) (w : Compiled) : Prop where
  module : ∀ name, t.module = some name → name ≠ "" → s.scopes.has name = true → s.Binds name w
  fallback : (∀ name, t.module = some name → name ≠ "" → s.scopes.has name = false) →
    s.Binds fallback w

theorem answeredBy_of_workflowOf {sv : Services σ} {t : Ticket} {o : Office σ} {w : Compiled}
    (hresolved : o.workflows.Resolved) (h : o.workflowOf sv t = some w) :
    AnsweredBy o.workflows sv.settings.fallbackScope t w := by
  have hbinds : ∀ {scope name}, o.workflows.workflow? scope = some w → scope = some name →
      o.workflows.Binds name w := by
    rintro _ name hw rfl
    obtain ⟨_, hsame, hbinds⟩ := Snapshot.workflow?_eq_some_iff.mp hw
    exact Option.some.inj hsame ▸ hbinds
  rcases Option.or_eq_some_iff.mp h with hmodule | ⟨hnone, hfallback⟩
  · refine ⟨fun name hname _ _ => hbinds hmodule hname, fun hunbound => ?_⟩
    obtain ⟨name, hname, hne, bound, hbound, -⟩ := Snapshot.workflow?_eq_some_iff.mp hmodule
    have hhas := hunbound name hname hne
    rw [Keyed.has, hbound] at hhas
    cases hhas
  · refine ⟨fun name hname hne hhas => ?_, fun _ => hbinds hfallback rfl⟩
    have hsome := (hresolved.has_iff hne).mp hhas
    rw [← hname] at hsome
    exact absurd hnone hsome

/-! ## Answers -/

/-- **An answer is the first reply.** Once the conversation has been put together and a workflow has
been found, which is the one of the ticket's module when that is bound and else the one of the fallback
scope, attempts are made one after another, each of them from the same fresh state. The first reply
is the answer, as it is, and no further attempt is made; when there is none in one attempt and as many
more as settings allow, just these attempts are made and the answer is empty. That scopes are bound to
workflows which are there is true of whatever the cache holds. -/
theorem answer_is_first_reply {sv : Services σ} {retries : ℕ}
    (hretries : sv.settings.runtimeMaxRetries = retries) {t : Ticket} {isTest : Bool}
    {o read before : Office σ} {turns : List Turn} {w : Compiled} (hresolved : o.workflows.Resolved)
    (hturns : (conversationOf sv t isTest).run.run o = (.ok turns, read))
    (hworkflow : (workflowFor sv t).run.run read = (.ok w, before)) :
    AnsweredBy o.workflows sv.settings.fallbackScope t w ∧
      ((∃ n text, n ≤ retries ∧ (∀ m < n, Misses (outcomeAt sv w t turns before m)) ∧
          Gives (outcomeAt sv w t turns before n) text ∧
          (answer sv t isTest).run.run o = (.ok text, officeAfter sv w t turns before n)) ∨
        (∀ n ≤ retries, Misses (outcomeAt sv w t turns before n)) ∧
          (answer sv t isTest).run.run o = (.ok "",
            (officeAt sv w t turns before (retries + 1)).told
              [.warning "ai_response_exhausted" [("ticket_id", .text t.id)]])) := by
  have hsame : read.workflows = o.workflows := by
    have hdesk := conversationOf_sameDesk sv t isTest o
    rw [hturns] at hdesk
    exact hdesk.workflows
  refine ⟨?_, ?_⟩
  · obtain ⟨result, after, hrun, -, hfound⟩ := workflowFor_cases sv t read
    rw [hworkflow] at hrun
    cases hrun
    rw [← hsame] at hresolved ⊢
    exact answeredBy_of_workflowOf hresolved (hfound w rfl)
  · have hrun : (answer sv t isTest).run.run o =
        let attempts := (firstReply sv w t turns 0 (retries + 1)).run before
        (conclude t attempts.1).run.run attempts.2 := by
      show (conversationOf sv t isTest >>= fun turns => workflowFor sv t >>= fun w =>
        Task.sure (firstReply sv w t turns 0 (sv.settings.runtimeMaxRetries + 1).toNat) >>=
          conclude t : Task σ String).run.run o = _
      rw [hretries, show ((retries : ℤ) + 1).toNat = retries + 1 by omega, Task.run_bind, hturns]
      simp only
      rw [Task.run_bind, hworkflow]
      simp only
      rw [Task.run_bind, Task.run_sure]
    rcases run_firstReply_cases retries with ⟨n, text, hn, hmissed, hgives, hfirst⟩ | ⟨hmissed, hall⟩
    · rw [hrun, hfirst]
      exact Or.inl ⟨n, text, hn, hmissed, hgives, rfl⟩
    · rw [hrun, hall]
      exact Or.inr ⟨hmissed, rfl⟩

/-- An office in which tickets are answered by a workflow that ends before its first step. -/
def mutedOffice (scope : String) : Office Unit :=
  ⟨⟨(), [], []⟩, .ofLists [Shift.openTicket] [] [] [], .empty,
    ⟨[("empty", emptyWorkflow)], [(scope, ⟨1, "empty"⟩)]⟩⟩

theorem fst_attemptIn_emptyWorkflow (sv : Services σ) (t : Ticket) (turns : List Turn) (o : Office σ) :
    (attemptIn sv emptyWorkflow t turns o).1 = .ok (.start turns t.summary []) :=
  rfl

theorem answer_is_first_reply_mutedOffice : ∃ settings,
    Settings.shape (.object []) = .valid settings ∧
      let sv := Shift.quietServices settings
      let o := mutedOffice settings.fallbackScope
      sv.settings.runtimeMaxRetries = (3 : ℕ) ∧ o.workflows.Resolved ∧
        (conversationOf sv Shift.openTicket false).run.run o = (.ok [], o) ∧
        (workflowFor sv Shift.openTicket).run.run o = (.ok emptyWorkflow, o) ∧
        (answer sv Shift.openTicket false).run.run o = (.ok "",
          (officeAt sv emptyWorkflow Shift.openTicket [] o 4).told
            [.warning "ai_response_exhausted" [("ticket_id", .text "T1")]]) := by
  obtain ⟨settings, hsettings, hscope, hretries⟩ : ∃ settings,
      Settings.shape (.object []) = .valid settings ∧ settings.fallbackScope = "default_all" ∧
        settings.runtimeMaxRetries = (3 : ℕ) := ⟨_, rfl, rfl, rfl⟩
  refine ⟨settings, hsettings, ?_⟩
  intro sv o
  have hresolved : o.workflows.Resolved := by
    intro bound hbound
    obtain rfl := List.mem_singleton.mp hbound
    rfl
  have hturns : (conversationOf sv Shift.openTicket false).run.run o = (.ok [], o) := rfl
  have hworkflow : (workflowFor sv Shift.openTicket).run.run o = (.ok emptyWorkflow, o) := by
    have hmodule : o.workflows.workflow? Shift.openTicket.module = none := rfl
    have hbound : o.workflows.workflow? (some sv.settings.fallbackScope) = some emptyWorkflow := by
      show Snapshot.workflow? ⟨_, [(settings.fallbackScope, _)]⟩ (some settings.fallbackScope) = _
      rw [hscope]
      rfl
    have hget : (get : Duty Unit (Office Unit)).run o = (o, o) := rfl
    have hfallback : (fallback? sv).run o = (some emptyWorkflow, o) := by
      unfold fallback?
      rw [Duty.run_bind, hget]
      dsimp only
      rw [hbound]
      rfl
    unfold workflowFor
    rw [Task.run_bind, Task.run_get]
    simp only [hmodule]
    rw [Task.run_bind, Task.run_sure, hfallback]
    rfl
  refine ⟨hretries, hresolved, hturns, hworkflow, ?_⟩
  rcases (answer_is_first_reply hretries hresolved hturns hworkflow).2 with
    ⟨n, text, -, -, ⟨s, hs, hresponse, hne⟩, -⟩ | ⟨-, hrun⟩
  · -- No attempt gets further than its fresh state.
    have hfresh : outcomeAt sv emptyWorkflow Shift.openTicket [] o n = .ok _ :=
      fst_attemptIn_emptyWorkflow sv Shift.openTicket [] _
    cases hfresh.symm.trans hs
    cases hresponse
    exact absurd rfl hne
  · exact hrun

end Helpdesk
