import Helpdesk.Proofs.Conversation.Bag
import Helpdesk.Proofs.Workflow.Endings
import Helpdesk.Proofs.Workflow.Itinerary
import Helpdesk.Proofs.Workflow.Resilience

/-!
# Helpdesk.Proofs.Workflow.Provenance — where the fields of a state come from.

A run is read as a list of legs: a step, and the run in front of it. What a step may write is said by
its kind, and what it does write by the decision that it got, so a field that differs from its value at
the start points to a leg that wrote it. No step writes what was said, the ticket or the variables, and
therefore everything that is derived from these three is the same wherever it is looked at. A fault
ends a run and leaves its state as it was.
-/
namespace Helpdesk.Workflow

open Conversation

variable {σ α : Type}

/-! ## What a step writes -/

/-- The model of a step, asked with the prompts of the step in some office, decided `d`. -/
def Decides (sv : Services σ) (llm : Option ModelChoice) (form : Model.Form α)
    (systemPrompt userPrompt : String) (bag : Entries) (s : State) (o : Office σ) (d : α) : Prop :=
  ∃ prompts asked, (decisionPrompts systemPrompt userPrompt bag s false).run.run o =
    (.ok prompts, asked) ∧ decision sv llm form prompts asked.world = .ok d

section

variable {sv : Services σ} {s : State} {o after : Office σ} {update : Fields}

theorem run_misfit_bind {result : Except Misfit α} {β : Type} {next : α → Task σ β} {b : β} :
    (Task.ofMisfit result >>= next).run.run o = (.ok b, after) ↔
      ∃ a, result = .ok a ∧ (next a).run.run o = (.ok b, after) := by
  rw [Task.run_bind_eq_ok_iff]
  constructor
  · rintro ⟨a, mid, hfirst, hnext⟩
    rcases result with misfit | a'
    · cases hfirst
    · cases hfirst
      exact ⟨a, rfl, hnext⟩
  · rintro ⟨a, rfl, hnext⟩
    exact ⟨a, o, rfl, hnext⟩

/-- A step that has the model decide goes on with the decision, or with the fault of asking for it. -/
theorem run_decision_bind {llm : Option ModelChoice} {form : Model.Form α}
    {systemPrompt userPrompt : String} {bag : Entries} {β : Type} {next : Except Fault α → Task σ β}
    {b : β} (h : (decisionPrompts systemPrompt userPrompt bag s false >>= fun prompts =>
      decide sv llm form prompts >>= next).run.run o = (.ok b, after)) :
    ∃ decided told, (next decided).run.run told = (.ok b, after) ∧
      ∀ d, decided = .ok d → Decides sv llm form systemPrompt userPrompt bag s o d := by
  obtain ⟨prompts, asked, hprompts, h⟩ := Task.run_bind_eq_ok_iff.mp h
  obtain ⟨decided, told, hdecided, h⟩ := Task.run_bind_eq_ok_iff.mp h
  refine ⟨decided, told, h, fun d hd => ⟨prompts, asked, hprompts, ?_⟩⟩
  cases hdecided
  exact hd

/-- What is known after a customer's mood was looked into: the words call for a human, the model
decided, or it did not. -/
theorem eq_of_detectMood {c : EmotionConfig}
    (h : (detectMood sv c s).run.run o = (.ok update, after)) :
    ∃ bag, Conversation.bag s = .ok bag ∧
      ((∃ reason, Triage.handoffReason? (lastWords bag) = some reason ∧
          update = urgentFields (lastWords bag) reason) ∨
        (∃ d, Decides sv c.llm .mood c.systemPrompt c.userPrompt bag s o d ∧
          update = moodFields (lastWords bag) d) ∨
        update = neutralFields (lastWords bag)) := by
  obtain ⟨bag, hbag, h⟩ := run_misfit_bind.mp h
  refine ⟨bag, hbag, ?_⟩
  simp only at h
  rcases hreason : Triage.handoffReason? (lastWords bag) with _ | reason
  · rw [hreason] at h
    obtain ⟨decided, told, h, hdecides⟩ := run_decision_bind h
    rcases decided with fault | d
    · obtain ⟨_, _, _, h⟩ := Task.run_bind_eq_ok_iff.mp h
      cases h
      exact Or.inr (Or.inr rfl)
    · cases h
      exact Or.inr (Or.inl ⟨d, hdecides d rfl, rfl⟩)
  · rw [hreason] at h
    cases h
    exact Or.inl ⟨reason, rfl, rfl⟩

theorem eq_of_lookUpKnowledge {c : RagConfig}
    (h : (lookUpKnowledge sv c s).run.run o = (.ok update, after)) :
    update = unsearchedFields ∨ ∃ found queries, update = searchedFields found queries := by
  obtain ⟨bag, -, h⟩ := run_misfit_bind.mp h
  obtain ⟨searches, _, -, h⟩ := Task.run_bind_eq_ok_iff.mp h
  rcases searches with _ | _
  · cases h
    exact Or.inl rfl
  · obtain ⟨queries, _, -, h⟩ := Task.run_bind_eq_ok_iff.mp h
    obtain ⟨filter, _, -, h⟩ := Task.run_bind_eq_ok_iff.mp h
    obtain ⟨found, _, -, h⟩ := Task.run_bind_eq_ok_iff.mp h
    cases h
    exact Or.inr ⟨found, queries, rfl⟩

theorem eq_of_reply {c : SmartChatConfig}
    (h : (Task.sure (reply sv c s)).run.run o = (.ok update, after)) :
    ∃ text, update = replyFields text := by
  rw [Task.run_sure, run_reply] at h
  rw [← Except.ok.inj (Prod.mk.inj h).1]
  rcases ((draft sv c s).run.run o).1 with fault | text
  · exact ⟨"", rfl⟩
  · exact ⟨text, rfl⟩

/-- What is known after an offer was thought about: the model decided, and the text of an offer came
with it if one is made, or it did not decide. -/
theorem eq_of_offerEscalation {c : EscalationConfig}
    (h : (offerEscalation sv c s).run.run o = (.ok update, after)) :
    ∃ bag, Conversation.bag s = .ok bag ∧
      ((∃ d text, Decides sv c.llm .escalation c.systemPrompt c.userPrompt (offerBag s bag) s o d ∧
          d.propose = true ∧ update = offerFields d (isWeak s) (some text)) ∨
        (∃ d : Decision.Escalation, d.propose = false ∧ update = offerFields d (isWeak s) none) ∨
        update = noOfferFields) := by
  obtain ⟨bag, hbag, h⟩ := run_misfit_bind.mp h
  refine ⟨bag, hbag, ?_⟩
  obtain ⟨decided, told, h, hdecides⟩ := run_decision_bind h
  rcases decided with fault | d
  · obtain ⟨_, _, _, h⟩ := Task.run_bind_eq_ok_iff.mp h
    cases h
    exact Or.inr (Or.inr rfl)
  · rcases hpropose : d.propose with _ | _
    · simp only [hpropose, Bool.false_eq_true, if_false] at h
      cases h
      exact Or.inr (Or.inl ⟨d, hpropose, rfl⟩)
    · simp only [hpropose, if_true] at h
      obtain ⟨text, _, _, h⟩ := Task.run_bind_eq_ok_iff.mp h
      cases h
      exact Or.inl ⟨d, text, hdecides d rfl, hpropose, rfl⟩

theorem eq_of_handOver {c : HandoffConfig}
    (h : (handOver sv c s).run.run o = (.ok update, after)) :
    ∃ text, update = handoffFields text := by
  obtain ⟨bag, -, h⟩ := run_misfit_bind.mp h
  obtain ⟨text, _, -, h⟩ := Task.run_bind_eq_ok_iff.mp h
  obtain ⟨outcome, _, -, h⟩ := Task.run_bind_eq_ok_iff.mp h
  refine ⟨text, ?_⟩
  rcases outcome with fault | _
  · obtain ⟨_, _, _, h⟩ := Task.run_bind_eq_ok_iff.mp h
    cases h
    rfl
  · cases h
    rfl

end

/-! ## Legs -/

/-- A step of a run, and the run in front of it. -/
structure Leg (σ : Type) where
  step : Step
  before : Run σ

namespace Leg

/-- The state that a leg leaves. -/
def after (sv : Services σ) (l : Leg σ) : State :=
  (l.before.visit sv l.step).state

/-- The customer's words called for a human, or the model decided that a human takes over. -/
def CallsHuman (sv : Services σ) (l : Leg σ) : Prop :=
  ∃ c bag, l.step.action = .emotionDetector c ∧ Conversation.bag l.before.state = .ok bag ∧
    ((Triage.handoffReason? (lastWords bag)).isSome ∨
      ∃ d : Decision.Mood, d.handoff = true ∧ Decides sv c.llm .mood c.systemPrompt c.userPrompt bag
        l.before.state l.before.office d)

/-- The model decided that a human agent is offered. -/
def Offers (sv : Services σ) (l : Leg σ) : Prop :=
  ∃ c bag, l.step.action = .escalationOffer c ∧ Conversation.bag l.before.state = .ok bag ∧
    ∃ d : Decision.Escalation, d.propose = true ∧ Decides sv c.llm .escalation c.systemPrompt
      c.userPrompt (offerBag l.before.state bag) l.before.state l.before.office d

/-- A step that ends with a fault leaves the state as it was, any other writes its update. -/
theorem after_cases (sv : Services σ) (l : Leg σ) :
    l.after sv = l.before.state ∨
      ∃ update office, l.after sv = l.before.state.write update ∧
        (l.step.action.perform sv l.before.state).run.run l.before.office = (.ok update, office) := by
  unfold after Run.visit
  rcases hrun : (l.step.action.perform sv l.before.state).run.run l.before.office with
    ⟨fault | update, office⟩
  · exact Or.inl rfl
  · exact Or.inr ⟨update, office, rfl, rfl⟩

/-- What a leg does to a state, field by field. -/
structure Writes (sv : Services σ) (l : Leg σ) (update : Fields) : Prop where
  vars : update.vars = none
  queries : ∀ v, update.searchQueries = some v → ∃ queries, v = .list queries
  handoff : update.handoffRequired = none ∨ update.handoffRequired = some (.bool false) ∨
    l.CallsHuman sv
  proposal : update.proposeEscalation = none ∨ update.proposeEscalation = some (.bool false) ∨
    l.Offers sv
  knowledge : update.context = none ∧ update.searchQueries = none ∨ ∃ c, l.step.action = .rag c
  response : update.response = none ∨ (∃ c, l.step.action = .smartChat c) ∨
    (∃ c, l.step.action = .handoff c) ∨ l.Offers sv

theorem writes_of_detectMood {sv : Services σ} {l : Leg σ} {c : EmotionConfig} {update : Fields}
    {office : Office σ} (haction : l.step.action = .emotionDetector c)
    (h : (detectMood sv c l.before.state).run.run l.before.office = (.ok update, office)) :
    l.Writes sv update := by
  obtain ⟨bag, hbag, hupdate⟩ := eq_of_detectMood h
  rcases hupdate with ⟨reason, hreason, rfl⟩ | ⟨d, hd, rfl⟩ | rfl
  · have hcalls : l.CallsHuman sv := ⟨c, bag, haction, hbag, Or.inl (by rw [hreason]; rfl)⟩
    exact ⟨rfl, nofun, Or.inr (Or.inr hcalls), Or.inl rfl, Or.inl ⟨rfl, rfl⟩, Or.inl rfl⟩
  · refine ⟨rfl, nofun, Or.inr ?_, Or.inl rfl, Or.inl ⟨rfl, rfl⟩, Or.inl rfl⟩
    rcases hhandoff : d.handoff with _ | _
    · exact Or.inl (congrArg (fun b => some (Value.bool b)) hhandoff)
    · exact Or.inr ⟨c, bag, haction, hbag, Or.inr ⟨d, hhandoff, hd⟩⟩
  · exact ⟨rfl, nofun, Or.inl rfl, Or.inl rfl, Or.inl ⟨rfl, rfl⟩, Or.inl rfl⟩

theorem writes_of_offerEscalation {sv : Services σ} {l : Leg σ} {c : EscalationConfig}
    {update : Fields} {office : Office σ} (haction : l.step.action = .escalationOffer c)
    (h : (offerEscalation sv c l.before.state).run.run l.before.office = (.ok update, office)) :
    l.Writes sv update := by
  obtain ⟨bag, hbag, hupdate⟩ := eq_of_offerEscalation h
  rcases hupdate with ⟨d, text, hd, hpropose, rfl⟩ | ⟨d, hpropose, rfl⟩ | rfl
  · have hoffers : l.Offers sv := ⟨c, bag, haction, hbag, d, hpropose, hd⟩
    exact ⟨rfl, nofun, Or.inl rfl, Or.inr (Or.inr hoffers), Or.inl ⟨rfl, rfl⟩,
      Or.inr (Or.inr (Or.inr hoffers))⟩
  · refine ⟨rfl, nofun, Or.inl rfl, Or.inr (Or.inl ?_), Or.inl ⟨rfl, rfl⟩, Or.inl rfl⟩
    exact congrArg (fun b => some (Value.bool b)) hpropose
  · exact ⟨rfl, nofun, Or.inl rfl, Or.inr (Or.inl rfl), Or.inl ⟨rfl, rfl⟩, Or.inl rfl⟩

/-- **One leg**: each field that is written is a field of the kind of the step. -/
theorem writes_of_perform {sv : Services σ} {l : Leg σ} {update : Fields} {office : Office σ}
    (h : (l.step.action.perform sv l.before.state).run.run l.before.office = (.ok update, office)) :
    l.Writes sv update := by
  rcases haction : l.step.action with c | c | c | c | c
  · rw [haction] at h
    exact writes_of_detectMood haction h
  · rw [haction] at h
    change (lookUpKnowledge sv c l.before.state).run.run l.before.office = _ at h
    rcases eq_of_lookUpKnowledge h with rfl | ⟨found, queries, rfl⟩
    · exact ⟨rfl, fun v hv => ⟨[], (Option.some.inj hv).symm⟩, Or.inl rfl, Or.inl rfl,
        Or.inr ⟨c, haction⟩, Or.inl rfl⟩
    · exact ⟨rfl, fun v hv => ⟨_, (Option.some.inj hv).symm⟩, Or.inl rfl, Or.inl rfl,
        Or.inr ⟨c, haction⟩, Or.inl rfl⟩
  · rw [haction] at h
    change (Task.sure (reply sv c l.before.state)).run.run l.before.office = _ at h
    obtain ⟨text, rfl⟩ := eq_of_reply h
    exact ⟨rfl, nofun, Or.inl rfl, Or.inl rfl, Or.inl ⟨rfl, rfl⟩, Or.inr (Or.inl ⟨c, haction⟩)⟩
  · rw [haction] at h
    exact writes_of_offerEscalation haction h
  · rw [haction] at h
    change (handOver sv c l.before.state).run.run l.before.office = _ at h
    obtain ⟨text, rfl⟩ := eq_of_handOver h
    exact ⟨rfl, nofun, Or.inl rfl, Or.inl rfl, Or.inl ⟨rfl, rfl⟩,
      Or.inr (Or.inr (Or.inl ⟨c, haction⟩))⟩

end Leg

/-! ## The legs of a run -/

namespace Run

/-- The legs of at most so many steps. -/
def legs (sv : Services σ) (w : Compiled) : Nat → Run σ → List (Leg σ)
  | 0, _ => []
  | steps + 1, r =>
    match r.next with
    | .ok (.node id) =>
      match w.step? id with
      | some step => ⟨step, r⟩ :: legs sv w steps (r.visit sv step)
      | none => []
    | _ => []

/-- The state that some legs lead to. -/
def reached (sv : Services σ) (s : State) : List (Leg σ) → State
  | [] => s
  | l :: rest => reached sv (l.after sv) rest

/-- Each leg begins in the state that the one before it left. -/
def Joined (sv : Services σ) : State → List (Leg σ) → Prop
  | _, [] => True
  | s, l :: rest => l.before.state = s ∧ Joined sv (l.after sv) rest

theorem visits_visit_eq (sv : Services σ) (r : Run σ) (step : Step) :
    (r.visit sv step).visits = r.visits ++ [⟨step.id, (r.visit sv step).state⟩] := by
  unfold visit
  rcases (step.action.perform sv r.state).run.run r.office with ⟨fault | update, office⟩ <;> rfl

theorem advanceAll_of_not_hasNext (sv : Services σ) (w : Compiled) (steps : Nat) {r : Run σ}
    (h : r.hasNext = false) : advanceAll sv w steps r = r := by
  cases steps with
  | zero => rfl
  | succ steps =>
    rw [advanceAll, h]
    rfl

/-- The legs of a run are its visits, one after another. -/
theorem legs_spec (sv : Services σ) (w : Compiled) (steps : Nat) (r : Run σ) :
    Joined sv r.state (legs sv w steps r) ∧
      (advanceAll sv w steps r).state = reached sv r.state (legs sv w steps r) ∧
      (advanceAll sv w steps r).visits =
        r.visits ++ (legs sv w steps r).map fun l => ⟨l.step.id, l.after sv⟩ := by
  have hstays : ∀ r last : Run σ, last.state = r.state → last.visits = r.visits →
      Joined sv r.state [] ∧ last.state = reached sv r.state [] ∧
        last.visits = r.visits ++ ([] : List (Leg σ)).map fun l => ⟨l.step.id, l.after sv⟩ :=
    fun r last hstate hvisits => ⟨trivial, hstate, hvisits.trans (List.append_nil _).symm⟩
  induction steps generalizing r with
  | zero => exact hstays r r rfl rfl
  | succ steps ih =>
    rcases hnext : r.next with fault | id | _
    · have hhas : r.hasNext = false := by simp only [hasNext, hnext]
      rw [advanceAll_of_not_hasNext sv w _ hhas]
      simp only [legs, hnext]
      exact hstays r r rfl rfl
    · have hhas : r.hasNext = true := by simp only [hasNext, hnext]
      rw [advanceAll, if_pos hhas]
      rcases hstep : w.step? id with _ | step
      · -- A run that is sent to a step that is not there ends where it is.
        simp only [legs, advance, hnext, hstep]
        rw [advanceAll_of_not_hasNext sv w _ rfl]
        exact hstays r _ rfl rfl
      · simp only [legs, advance, hnext, hstep]
        obtain ⟨hjoined, hstate, hvisits⟩ := ih (r.visit sv step)
        refine ⟨⟨rfl, hjoined⟩, hstate, ?_⟩
        rw [hvisits, visits_visit_eq, List.append_assoc]
        rfl
    · have hhas : r.hasNext = false := by simp only [hasNext, hnext]
      rw [advanceAll_of_not_hasNext sv w _ hhas]
      simp only [legs, hnext]
      exact hstays r r rfl rfl

/-! ## What legs leave -/

/-- What is true of a state that some legs have led to from `s`. -/
structure Kept (sv : Services σ) (s : State) (done : List (Leg σ)) (now : State) : Prop where
  turns : now.turns = s.turns
  ticket : now.ticket = s.ticket
  vars : now.fields.vars = s.fields.vars
  queries : ∃ queries, now.fields.searchQueries = some (.list queries)
  handoff : now.fields.handoffRequired = some (.bool false) ∨ ∃ l ∈ done, l.CallsHuman sv
  proposal : now.fields.proposeEscalation = some (.bool false) ∨ ∃ l ∈ done, l.Offers sv

/-- A flag that is not down was put up by a leg, now or before. -/
theorem flag_cases {raises : Leg σ → Prop} {done : List (Leg σ)} {l : Leg σ}
    {old new : Option Value} (hold : old = some (.bool false) ∨ ∃ e ∈ done, raises e)
    (hnew : new = none ∨ new = some (.bool false) ∨ raises l) :
    new.or old = some (.bool false) ∨ ∃ e ∈ done ++ [l], raises e := by
  rcases hnew with rfl | rfl | hraises
  · rcases hold with rfl | ⟨e, he, hraises⟩
    · exact Or.inl rfl
    · exact Or.inr ⟨e, List.mem_append_left _ he, hraises⟩
  · exact Or.inl rfl
  · exact Or.inr ⟨l, List.mem_append_right _ (List.mem_singleton_self l), hraises⟩

theorem Kept.leg {sv : Services σ} {s now : State} {done : List (Leg σ)} (h : Kept sv s done now)
    {l : Leg σ} (hbefore : l.before.state = now) : Kept sv s (done ++ [l]) (l.after sv) := by
  subst hbefore
  rcases l.after_cases sv with hsame | ⟨update, office, hafter, hrun⟩
  · rw [hsame]
    refine ⟨h.turns, h.ticket, h.vars, h.queries, ?_, ?_⟩
    · exact h.handoff.imp_right fun ⟨e, he, hcalls⟩ => ⟨e, List.mem_append_left _ he, hcalls⟩
    · exact h.proposal.imp_right fun ⟨e, he, hoffers⟩ => ⟨e, List.mem_append_left _ he, hoffers⟩
  · have hwrites := Leg.writes_of_perform hrun
    rw [hafter]
    refine ⟨h.turns, h.ticket, ?_, ?_, ?_, ?_⟩
    · show (l.before.state.fields.write update).vars = _
      simp only [Fields.write, hwrites.vars, Option.isNone_none, if_true]
      exact h.vars
    · rcases hqueries : update.searchQueries with _ | v
      · obtain ⟨queries, hold⟩ := h.queries
        refine ⟨queries, ?_⟩
        show (update.searchQueries).or l.before.state.fields.searchQueries = _
        rw [hqueries, hold]
        rfl
      · obtain ⟨queries, rfl⟩ := hwrites.queries v hqueries
        refine ⟨queries, ?_⟩
        show (update.searchQueries).or l.before.state.fields.searchQueries = _
        rw [hqueries]
        rfl
    · exact flag_cases h.handoff hwrites.handoff
    · exact flag_cases h.proposal hwrites.proposal

/-- What is kept from leg to leg is kept by a whole run, wherever one stops to look. -/
theorem Kept.reached {sv : Services σ} {s now : State} {done legs : List (Leg σ)}
    (h : Kept sv s done now) (hjoined : Joined sv now legs) {earlier : List (Leg σ)}
    (hearlier : earlier <+: legs) : Kept sv s (done ++ earlier) (reached sv now earlier) := by
  induction legs generalizing done now earlier with
  | nil =>
    obtain rfl := List.prefix_nil.mp hearlier
    rw [List.append_nil]
    exact h
  | cons l rest ih =>
    rcases earlier with _ | ⟨first, earlier⟩
    · rw [List.append_nil]
      exact h
    · obtain ⟨rfl, hrest⟩ := List.cons_prefix_cons.mp hearlier
      have hmore := ih (h.leg hjoined.1) hjoined.2 hrest
      rwa [List.append_assoc] at hmore

theorem mem_steps_of_mem_legs {sv : Services σ} {w : Compiled} {steps : Nat} {r : Run σ}
    {l : Leg σ} (h : l ∈ legs sv w steps r) : l.step ∈ w.steps := by
  induction steps generalizing r with
  | zero => nomatch h
  | succ steps ih =>
    unfold legs at h
    split at h
    · split at h
      · rename_i step hstep
        rcases List.mem_cons.mp h with rfl | hlater
        · exact List.mem_of_find?_eq_some hstep
        · exact ih hlater
      · nomatch h
    · nomatch h

/-- Where what is in the states of a run from `s` comes from. -/
structure Accounted (sv : Services σ) (w : Compiled) (s : State) (r : Run σ)
    (legs : List (Leg σ)) : Prop where
  steps : ∀ l ∈ legs, l.step ∈ w.steps
  visits : r.visits = legs.map fun l => ⟨l.step.id, l.after sv⟩
  joined : Joined sv s legs
  state : r.state = reached sv s legs
  conversation : ∀ earlier, earlier <+: legs → (reached sv s earlier).turns = s.turns ∧
    (reached sv s earlier).ticket = s.ticket ∧ (reached sv s earlier).fields.vars = s.fields.vars
  derived : ∀ earlier, earlier <+: legs → ∀ name ∉ writtenNames,
    (bag (reached sv s earlier)).map (Entries.value? name) = (bag s).map (Entries.value? name)
  handoff : ∀ earlier, earlier <+: legs →
    (reached sv s earlier).fields.handoffRequired ≠ some (.bool false) → ∃ l ∈ earlier, l.CallsHuman sv
  proposal : ∀ earlier, earlier <+: legs →
    (reached sv s earlier).fields.proposeEscalation ≠ some (.bool false) → ∃ l ∈ earlier, l.Offers sv
  knowledge : ∀ l ∈ legs, (l.after sv).fields.context ≠ l.before.state.fields.context ∨
    (l.after sv).fields.searchQueries ≠ l.before.state.fields.searchQueries →
      ∃ c, l.step.action = .rag c
  response : ∀ l ∈ legs, (l.after sv).fields.response ≠ l.before.state.fields.response →
    (∃ c, l.step.action = .smartChat c) ∨ (∃ c, l.step.action = .handoff c) ∨ l.Offers sv

end Run

namespace Leg

theorem or_eq_right {update : Option α} (h : update = none) (old : Option α) :
    update.or old = old := by
  rw [h, Option.none_or]

/-- Only a step that looks up knowledge changes what was found and what was searched for. -/
theorem isRag_of_knowledge_ne {sv : Services σ} {l : Leg σ}
    (h : (l.after sv).fields.context ≠ l.before.state.fields.context ∨
      (l.after sv).fields.searchQueries ≠ l.before.state.fields.searchQueries) :
    ∃ c, l.step.action = .rag c := by
  rcases l.after_cases sv with hsame | ⟨update, office, hafter, hrun⟩
  · rw [hsame] at h
    exact (h.elim (absurd rfl) (absurd rfl) : False).elim
  · rcases (writes_of_perform hrun).knowledge with ⟨hcontext, hqueries⟩ | hrag
    · have hkept : (l.after sv).fields.context = l.before.state.fields.context ∧
          (l.after sv).fields.searchQueries = l.before.state.fields.searchQueries := by
        rw [hafter]
        exact ⟨or_eq_right hcontext _, or_eq_right hqueries _⟩
      exact (h.elim (absurd hkept.1) (absurd hkept.2) : False).elim
    · exact hrag

/-- Only an answer, a handoff or an offer changes what the customer is told. -/
theorem answers_of_response_ne {sv : Services σ} {l : Leg σ}
    (h : (l.after sv).fields.response ≠ l.before.state.fields.response) :
    (∃ c, l.step.action = .smartChat c) ∨ (∃ c, l.step.action = .handoff c) ∨ l.Offers sv := by
  rcases l.after_cases sv with hsame | ⟨update, office, hafter, hrun⟩
  · exact absurd (congrArg (fun s : State => s.fields.response) hsame) h
  · rcases (writes_of_perform hrun).response with hnone | hanswers
    · refine absurd ?_ h
      rw [hafter]
      exact or_eq_right hnone _
    · exact hanswers

end Leg

/-- The legs of a whole run. -/
def Compiled.legs (sv : Services σ) (w : Compiled) (office : Office σ) (s : State) : List (Leg σ) :=
  if w.stepLimit < 1 then []
  else Run.legs sv w w.stepLimit.toNat (Run.start w ((Handoff.settle sv).run office).2 s)

/-- The legs of a whole run are its visits. -/
theorem Compiled.legs_spec (w : Compiled) (sv : Services σ) (office : Office σ) (s : State) :
    (∀ l ∈ w.legs sv office s, l.step ∈ w.steps) ∧ Run.Joined sv s (w.legs sv office s) ∧
      (w.run sv office s).state = Run.reached sv s (w.legs sv office s) ∧
      (w.run sv office s).visits = (w.legs sv office s).map fun l => ⟨l.step.id, l.after sv⟩ := by
  unfold Compiled.legs Compiled.run
  rcases (Handoff.settle sv).run office with ⟨_, settled⟩
  by_cases hlimit : w.stepLimit < 1
  · simp only [if_pos hlimit]
    exact ⟨fun _ hl => absurd hl List.not_mem_nil, trivial, rfl, rfl⟩
  · simp only [if_neg hlimit]
    rw [Run.state_stop, Run.visits_stop]
    obtain ⟨hjoined, hstate, hvisits⟩ := Run.legs_spec sv w w.stepLimit.toNat (Run.start w settled s)
    exact ⟨fun _ => Run.mem_steps_of_mem_legs, hjoined, hstate, hvisits⟩

/-- **Where fields come from**: whatever models, stores and books do, what was said, the ticket and
the variables stay what they are for the whole of a run, and with them every name that no step writes;
a human is called because the customer's words or the model's decision in some earlier step called for
one, an offer is made because the model proposed it in an earlier step, only lookups change what was
found, and only answers, handoffs and offers change what the customer is told. -/
theorem Compiled.accounted_run (w : Compiled) (sv : Services σ) (office : Office σ)
    (turns : List Turn) (ticket vars : Entries) :
    Run.Accounted sv w (State.start turns ticket vars) (w.run sv office (State.start turns ticket vars))
      (w.legs sv office (State.start turns ticket vars)) := by
  obtain ⟨hsteps, hjoined, hstate, hvisits⟩ :=
    w.legs_spec sv office (State.start turns ticket vars)
  generalize hs : State.start turns ticket vars = s at *
  have hstart : Run.Kept sv s [] s := by
    rw [← hs]
    exact ⟨rfl, rfl, rfl, ⟨[], rfl⟩, Or.inl rfl, Or.inl rfl⟩
  have hkept : ∀ earlier, earlier <+: w.legs sv office s →
      Run.Kept sv s earlier (Run.reached sv s earlier) := fun _ => hstart.reached hjoined
  refine ⟨hsteps, hvisits, hjoined, hstate, ?_, ?_, ?_, ?_, ?_, ?_⟩
  · intro earlier hearlier
    have h := hkept earlier hearlier
    exact ⟨h.turns, h.ticket, h.vars⟩
  · intro earlier hearlier name hname
    have h := hkept earlier hearlier
    exact map_value?_bag_of_agrees h.turns h.ticket h.vars h.queries hstart.queries hname
  · exact fun earlier hearlier hup => (hkept earlier hearlier).handoff.resolve_left hup
  · exact fun earlier hearlier hup => (hkept earlier hearlier).proposal.resolve_left hup
  · exact fun _ _ => Leg.isRag_of_knowledge_ne
  · exact fun _ _ => Leg.answers_of_response_ne

end Helpdesk.Workflow
