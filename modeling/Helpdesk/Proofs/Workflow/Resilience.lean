import Helpdesk.Proofs.Conversation.Bag
import Helpdesk.Proofs.Handoff.Shift
import Helpdesk.Proofs.Knowledge.Retrieval
import Helpdesk.Proofs.Model.Call
import Helpdesk.Proofs.Office
import Helpdesk.Workflow.Run

/-!
# Helpdesk.Proofs.Workflow.Resilience — a step ends well whatever its collaborators do.

Models, stores and books may fail in any way and at any moment. Each step has a bag, fills in its
templates and collects images before it asks anybody. Once it has come that far it ends with an
update, and the update is a function of what the model decided, where every failure of the model
counts the same.

What comes before is not covered. An image whose address is a list or an object ends every step that
decides; a step that looks for knowledge also ends at a ticket whose module is no text and at a number
of hits that no float can hold. The step that writes a reply takes care of its images as well.
-/
namespace Helpdesk.Workflow

open Conversation

variable {σ α : Type}

/-! ## Questions to the model -/

/-- A template can be filled in: no variable has the name that templates reserve. -/
def Fills (template : String) (bag : Entries) : Prop :=
  Template.render (some template) bag ≠ .refused

/-- The text of a template; one with a mistake in it stands for itself. -/
def filledText (template : String) (bag : Entries) : String :=
  match Template.render (some template) bag with
  | .rendered text => text
  | .asWritten text => text
  | .refused => ""

theorem run_fill {template : String} {bag : Entries} (h : Fills template bag) (o : Office σ) :
    ∃ more, (Task.fill template bag).run.run o = (.ok (filledText template bag), o.told more) := by
  unfold Task.fill filledText
  rcases hrender : Template.render (some template) bag with text | text | _
  · refine ⟨[], ?_⟩
    rw [o.told_nil]
    rfl
  · exact ⟨[.warning "template_render_failed" []], rfl⟩
  · exact absurd hrender h

/-- A step can put a question to its model: its templates can be filled in, and the images that it
shows can be collected. -/
structure CanAsk (systemPrompt userPrompt : String) (bag : Entries) (s : State) (ofTicket : Bool) :
    Prop where
  instructions : Fills systemPrompt bag
  question : Fills userPrompt bag
  shown : ∃ shown, images s ofTicket = .ok shown

/-- The prompts of a step that can put its question. -/
def promptsOf (systemPrompt userPrompt : String) (bag : Entries) (s : State) (ofTicket : Bool) :
    List Model.Prompt :=
  let shown := (images s ofTicket).toOption.getD []
  Model.Prompt.pair (filledText systemPrompt bag)
    (.list (RichText.textPart (filledText userPrompt bag) ::
      (Text.lastItems imageLimit shown).map RichText.imagePart))

/-- What the model of a step decides, asked in some world. -/
def decision (sv : Services σ) (llm : Option ModelChoice) (form : Model.Form α)
    (prompts : List Model.Prompt) (w : World σ) : Except Fault α :=
  ((Model.decide sv.models (.deciding sv.settings llm) form prompts).run w).1

/-- The office after the model of a step has decided. -/
def decided (sv : Services σ) (llm : Option ModelChoice) (form : Model.Form α)
    (prompts : List Model.Prompt) (o : Office σ) : Office σ :=
  { o with
    world := ((Model.decide sv.models (.deciding sv.settings llm) form prompts).run o.world).2 }

theorem run_decide (sv : Services σ) (llm : Option ModelChoice) (form : Model.Form α)
    (prompts : List Model.Prompt) (o : Office σ) (more : List Notice) :
    (decide sv llm form prompts).run.run (o.told more) =
      (.ok (decision sv llm form prompts o.world), (decided sv llm form prompts o).told more) := by
  have hdecide := Model.discreet_decide sv.models (.deciding sv.settings llm) form prompts o.world
    more
  have hrun : (decide sv llm form prompts).run.run (o.told more) =
      (.ok (decision sv llm form prompts (o.world.told more)),
        decided sv llm form prompts (o.told more)) := rfl
  rw [hrun]
  unfold decision decided
  show (_, { o with world := ((Model.decide _ _ _ _).run (o.world.told more)).2 }) = _
  rw [hdecide]
  rfl

section CanAsk

variable {systemPrompt userPrompt : String} {bag : Entries} {s : State} {ofTicket : Bool}

theorem CanAsk.run_decisionPrompts (h : CanAsk systemPrompt userPrompt bag s ofTicket)
    (o : Office σ) :
    ∃ more, (decisionPrompts systemPrompt userPrompt bag s ofTicket).run.run o =
      (.ok (promptsOf systemPrompt userPrompt bag s ofTicket), o.told more) := by
  obtain ⟨shown, himages⟩ := h.shown
  obtain ⟨first, hinstructions⟩ := run_fill h.instructions o
  obtain ⟨second, hquestion⟩ := run_fill h.question (o.told first)
  have hparts := promptParts_eq (filledText userPrompt bag) s ofTicket
  rw [himages] at hparts
  refine ⟨first ++ second, ?_⟩
  unfold decisionPrompts promptsOf
  rw [Task.run_bind, hinstructions]
  simp only
  rw [Task.run_bind, hquestion]
  simp only
  rw [Task.run_bind, hparts, o.told_told, himages]
  rfl

/-- A step that can put its question goes on from what its model decides. -/
theorem CanAsk.run_bind (h : CanAsk systemPrompt userPrompt bag s ofTicket) (sv : Services σ)
    (llm : Option ModelChoice) (form : Model.Form α) (o : Office σ) (more : List Notice) :
    ∃ later, ∀ {β : Type} (next : Except Fault α → Task σ β), (do
      let prompts ← decisionPrompts systemPrompt userPrompt bag s ofTicket
      next (← decide sv llm form prompts)).run.run (o.told more) =
        (next (decision sv llm form (promptsOf systemPrompt userPrompt bag s ofTicket) o.world)).run.run
          ((decided sv llm form (promptsOf systemPrompt userPrompt bag s ofTicket) o).told later) := by
  obtain ⟨later, hprompts⟩ := h.run_decisionPrompts (o.told more)
  refine ⟨more ++ later, fun next => ?_⟩
  rw [Task.run_bind, hprompts, o.told_told]
  simp only
  rw [Task.run_bind, run_decide]

end CanAsk

/-- A task begins with the bag of its state. -/
theorem run_bag_bind {s : State} {bag : Entries} (hbag : Conversation.bag s = .ok bag)
    (next : Entries → Task σ α) (o : Office σ) :
    (Task.ofMisfit (Conversation.bag s) >>= next).run.run o = (next bag).run.run o := by
  rw [hbag]
  rfl

theorem lastWords_ne_empty {s : State} {bag : Entries} (hbag : Conversation.bag s = .ok bag) :
    lastWords bag ≠ "" := by
  obtain ⟨text, htext, hvalue⟩ := value?_lastCustomerMessage hbag
  unfold lastWords bagText
  rw [hvalue]
  exact htext

/-! ## The mood -/

/-- What is found out about a customer whose words call for a human at once, or about whom the model
decided or failed to decide. -/
def moodUpdate (lastWords : String) (decided : Except Fault Decision.Mood) : Fields :=
  match Triage.handoffReason? lastWords with
  | some reason => urgentFields lastWords reason
  | none =>
    match decided with
    | .ok d => moodFields lastWords d
    | .error _ => neutralFields lastWords

theorem run_detectMood {c : EmotionConfig} {s : State} {bag : Entries}
    (hbag : Conversation.bag s = .ok bag)
    (hask : CanAsk c.systemPrompt c.userPrompt bag s false) (sv : Services σ) (o : Office σ) :
    ∃ after, (detectMood sv c s).run.run o = (.ok (moodUpdate (lastWords bag)
      (decision sv c.llm .mood (promptsOf c.systemPrompt c.userPrompt bag s false) o.world)),
      after) := by
  obtain ⟨later, hdecided⟩ := hask.run_bind sv c.llm .mood o []
  rw [o.told_nil] at hdecided
  unfold detectMood moodUpdate
  rw [run_bag_bind hbag]
  simp only
  rcases Triage.handoffReason? (lastWords bag) with _ | reason
  · rw [hdecided]
    rcases decision sv c.llm .mood _ o.world with fault | d
    · exact ⟨_, rfl⟩
    · exact ⟨_, rfl⟩
  · exact ⟨o, rfl⟩

/-! ## An offer of a human agent -/

/-- The bag of the step that offers a human agent. -/
def offerBag (s : State) (bag : Entries) : Entries :=
  Entries.put "weakRetrieval" (.bool (isWeak s)) bag

/-- What is known after the model decided, or failed to decide, whether to offer a human agent. -/
def offerUpdate (weak : Bool) (text : String) : Except Fault Decision.Escalation → Fields
  | .ok d => offerFields d weak (if d.propose then some text else none)
  | .error _ => noOfferFields

theorem run_offerEscalation {c : EscalationConfig} {s : State} {bag : Entries}
    (hbag : Conversation.bag s = .ok bag)
    (hask : CanAsk c.systemPrompt c.userPrompt (offerBag s bag) s false)
    (hoffer : Fills c.offerMessageTemplate (offerBag s bag)) (sv : Services σ) (o : Office σ) :
    ∃ after, (offerEscalation sv c s).run.run o =
      (.ok (offerUpdate (isWeak s) (filledText c.offerMessageTemplate (offerBag s bag))
        (decision sv c.llm .escalation
          (promptsOf c.systemPrompt c.userPrompt (offerBag s bag) s false) o.world)), after) := by
  obtain ⟨later, hdecided⟩ := hask.run_bind sv c.llm .escalation o []
  rw [o.told_nil] at hdecided
  unfold offerEscalation
  simp only
  rw [run_bag_bind hbag]
  unfold offerBag at *
  rw [hdecided]
  rcases decision sv c.llm .escalation _ o.world with fault | d
  · exact ⟨_, rfl⟩
  · -- The text of the offer is a template too; it is filled in only when an offer is made.
    rcases hpropose : d.propose with _ | _
    · simp only [offerUpdate, hpropose]
      exact ⟨_, rfl⟩
    · obtain ⟨last, hfill⟩ := run_fill hoffer ((decided sv c.llm .escalation _ o).told later)
      simp only [offerUpdate, hpropose, if_true]
      rw [Task.run_bind, hfill]
      exact ⟨_, rfl⟩

/-! ## Knowledge -/

/-- The question whether to search. -/
def RagConfig.intent (c : RagConfig) : IntentConfig :=
  c.intentAnalysis.getD ⟨"", "", none⟩

/-- Whether the model is asked if there is anything to search for. -/
def asksIntent (c : RagConfig) (bag : Entries) : Bool :=
  c.enableIntentAnalysis && !Triage.isSmallTalk (lastWords bag)

/-- Whether a step searches, by what its model decided or failed to decide. -/
def searchesOn (c : RagConfig) (bag : Entries) (decided : Except Fault Decision.SearchNeed) : Bool :=
  if asksIntent c bag then
    match decided with
    | .ok d => d.isNeeded
    | .error _ => true
  else !c.enableIntentAnalysis

/-- What the model decides about searching. -/
def intentDecision (sv : Services σ) (c : RagConfig) (bag : Entries) (s : State) (o : Office σ) :
    Except Fault Decision.SearchNeed :=
  decision sv c.intent.llm .searchNeed
    (promptsOf c.intent.systemPrompt c.intent.userPrompt bag s false) o.world

/-- The office in which queries are written. -/
def afterIntent (sv : Services σ) (c : RagConfig) (bag : Entries) (s : State) (o : Office σ) :
    Office σ :=
  if asksIntent c bag then
    decided sv c.intent.llm .searchNeed
      (promptsOf c.intent.systemPrompt c.intent.userPrompt bag s false) o
  else o

theorem run_shouldSearch {c : RagConfig} {s : State} {bag : Entries}
    (hask : c.enableIntentAnalysis = true →
      CanAsk c.intent.systemPrompt c.intent.userPrompt bag s false) (sv : Services σ)
    (o : Office σ) :
    ∃ more, (shouldSearch sv c bag s).run.run o =
      (.ok (searchesOn c bag (intentDecision sv c bag s o)),
        (afterIntent sv c bag s o).told more) := by
  unfold shouldSearch searchesOn afterIntent intentDecision asksIntent
  rcases henabled : c.enableIntentAnalysis with _ | _
  · exact ⟨[], by rw [Office.told_nil]; rfl⟩
  rcases Triage.isSmallTalk (lastWords bag) with _ | _
  · obtain ⟨later, hdecided⟩ := (hask henabled).run_bind sv c.intent.llm .searchNeed o []
    rw [o.told_nil] at hdecided
    simp only [Bool.not_true, Bool.false_eq_true, if_false, Bool.not_false, Bool.and_self, if_true]
    unfold RagConfig.intent at *
    rw [hdecided]
    rcases decision sv _ .searchNeed _ o.world with fault | d
    · refine ⟨later ++ [stepNotice false "search_intent_failed" s fault.message], ?_⟩
      rw [← Office.told_told]
      rfl
    · exact ⟨later, rfl⟩
  · exact ⟨[], by rw [Office.told_nil]; rfl⟩

/-- The queries of a step, by what its model wrote or failed to write. -/
def queriesOn (bag : Entries) : Except Fault Decision.Queries → List String
  | .ok d => if (usableQueries d).isEmpty then [ticketQuery bag] else usableQueries d
  | .error _ => [lastWords bag]

theorem length_queriesOn (bag : Entries) (decided : Except Fault Decision.Queries) :
    (queriesOn bag decided).length ∈ [1, 2, 3] := by
  have hrange : ∀ n : Nat, 0 < n → n ≤ queryLimit → n ∈ [1, 2, 3] := by
    intro n hpos hle
    unfold queryLimit at hle
    simp only [List.mem_cons, List.not_mem_nil, or_false]
    omega
  rcases decided with fault | d
  · exact hrange 1 (by decide) (by decide)
  · unfold queriesOn
    simp only
    split
    · exact hrange 1 (by decide) (by decide)
    · rename_i hsome
      refine hrange _ (List.length_pos_iff.mpr (by simpa using hsome)) ?_
      exact List.length_take_le _ _

/-- What the model writes as queries. -/
def queryDecision (sv : Services σ) (c : RagConfig) (bag : Entries) (s : State) (o : Office σ) :
    Except Fault Decision.Queries :=
  decision sv c.queryLlm .queries (promptsOf c.querySystemPrompt c.queryUserPrompt bag s true)
    o.world

/-- The office in which the store is searched. -/
def afterQueries (sv : Services σ) (c : RagConfig) (bag : Entries) (s : State) (o : Office σ) :
    Office σ :=
  decided sv c.queryLlm .queries (promptsOf c.querySystemPrompt c.queryUserPrompt bag s true) o

theorem run_queriesFor {c : RagConfig} {s : State} {bag : Entries} (hwords : lastWords bag ≠ "")
    (hask : CanAsk c.querySystemPrompt c.queryUserPrompt bag s true) (sv : Services σ)
    (o : Office σ) (more : List Notice) :
    ∃ later, (queriesFor sv c bag s).run.run (o.told more) =
      (.ok (queriesOn bag (queryDecision sv c bag s o)), (afterQueries sv c bag s o).told later) := by
  obtain ⟨later, hdecided⟩ := hask.run_bind sv c.queryLlm .queries o more
  have hkept : [lastWords bag].filter (!·.isEmpty) = [lastWords bag] := by
    simp [hwords]
  unfold queriesFor writtenQueries queriesOn queryDecision afterQueries
  -- The question stands in front of the whole rest, also of what is done when no query is usable.
  simp only [bind_assoc]
  rw [hdecided]
  rcases decision sv c.queryLlm .queries _ o.world with fault | d
  · refine ⟨later ++ [stepNotice false "query_generation_failed" s fault.message], ?_⟩
    rw [← Office.told_told]
    simp only [hkept]
    rfl
  · exact ⟨later, rfl⟩

/-- A step that looks for knowledge can ask its model and its store. -/
structure CanSearch (settings : Settings) (c : RagConfig) (bag : Entries) (s : State) : Prop where
  intent : c.enableIntentAnalysis = true →
    CanAsk c.intent.systemPrompt c.intent.userPrompt bag s false
  queries : CanAsk c.querySystemPrompt c.queryUserPrompt bag s true
  filter : ∃ filter, ticketFilter ((Entries.value? "module" s.ticket).getD .null) = .ok filter
  count : ∀ n : Nat, n ∈ [1, 2, 3] →
    ∃ count, Knowledge.hitsPerQuery? n settings.ragBaseK = some count

/-- What is known after a step has looked for knowledge: nothing when it did not search, else what
the store had for its queries. -/
def KnowledgeUpdate (sv : Services σ) (c : RagConfig) (bag : Entries) (s : State) (o : Office σ)
    (update : Fields) : Prop :=
  if searchesOn c bag (intentDecision sv c bag s o) then
    ∃ queries filter more found,
      queries = queriesOn bag (queryDecision sv c bag s (afterIntent sv c bag s o)) ∧
      ticketFilter ((Entries.value? "module" s.ticket).getD .null) = .ok filter ∧
      ((Knowledge.retrieve sv.store sv.settings queries filter (lastWords bag)
        (useContext s (lastWords bag) queries)).run.run
          ((afterQueries sv c bag s (afterIntent sv c bag s o)).world.told more)).1 = .ok found ∧
      update = searchedFields found queries
  else update = unsearchedFields

theorem run_lookUpKnowledge {c : RagConfig} {s : State} {bag : Entries} {sv : Services σ}
    (hbag : Conversation.bag s = .ok bag) (hwords : lastWords bag ≠ "")
    (h : CanSearch sv.settings c bag s) (o : Office σ) :
    ∃ update after, (lookUpKnowledge sv c s).run.run o = (.ok update, after) ∧
      KnowledgeUpdate sv c bag s o update := by
  obtain ⟨more, hsearch⟩ := run_shouldSearch h.intent sv o
  unfold lookUpKnowledge KnowledgeUpdate
  rw [run_bag_bind hbag, Task.run_bind, hsearch]
  simp only
  rcases searchesOn c bag (intentDecision sv c bag s o) with _ | _
  · exact ⟨_, _, rfl, rfl⟩
  -- From here on the store is asked: queries, then the filter, then the retrieval.
  obtain ⟨later, hqueries⟩ := run_queriesFor hwords h.queries sv (afterIntent sv c bag s o) more
  obtain ⟨filter, hfilter⟩ := h.filter
  simp only [Bool.not_true, Bool.false_eq_true, if_false, if_true]
  rw [Task.run_bind, hqueries]
  simp only
  rw [Task.run_bind, hfilter, Task.run_ofExcept]
  simp only
  rw [Task.run_bind, Task.run_ofAttempt]
  obtain ⟨count, hcount⟩ := h.count _
    (length_queriesOn bag (queryDecision sv c bag s (afterIntent sv c bag s o)))
  obtain ⟨found, hfound⟩ := Knowledge.exists_retrieve_eq_ok sv.store sv.settings filter
    (lastWords bag) (useContext s (lastWords bag) _) hcount
    ((afterQueries sv c bag s (afterIntent sv c bag s o)).told later).world
  rw [hfound]
  exact ⟨_, _, rfl, _, filter, later, found, rfl, rfl, hfound, rfl⟩

/-! ## A reply -/

/-- What is known after a reply was written or was not. -/
def replyUpdate : Except Fault String → Fields
  | .ok text => replyFields text
  | .error _ => replyFields ""

theorem run_reply (sv : Services σ) (c : SmartChatConfig) (s : State) (o : Office σ) :
    ((reply sv c s).run o).1 = replyUpdate ((draft sv c s).run.run o).1 := by
  unfold reply
  rw [Duty.run_bind, Duty.run_outcome]
  rcases (draft sv c s).run.run o with ⟨fault | text, after⟩ <;> rfl

/-- A draft that gets as far as the model is what the model writes. -/
theorem run_draft {c : SmartChatConfig} {s : State} {bag : Entries} {content : Value}
    (hbag : Conversation.bag s = .ok bag) (hinstructions : Fills c.systemPrompt bag)
    (hquestion : Fills c.userPrompt bag)
    (hcontent : replyContent c (filledText c.userPrompt bag) s = .ok content) (sv : Services σ)
    (o : Office σ) :
    ((draft sv c s).run.run o).1 = ((Model.write sv.models (.writing sv.settings c.llm)
      (Model.Prompt.pair (filledText c.systemPrompt bag) content)).run.run o.world).1 := by
  obtain ⟨first, hfirst⟩ := run_fill hinstructions o
  obtain ⟨second, hsecond⟩ := run_fill hquestion (o.told first)
  have hwrite := Model.discreet_write sv.models (.writing sv.settings c.llm)
    (Model.Prompt.pair (filledText c.systemPrompt bag) content) o.world (first ++ second)
  unfold draft
  rw [run_bag_bind hbag, Task.run_bind, hfirst]
  simp only
  rw [Task.run_bind, hsecond, o.told_told]
  simp only
  rw [hcontent]
  exact congrArg Prod.fst hwrite

/-! ## A handoff -/

theorem run_handOver {c : HandoffConfig} {s : State} {bag : Entries}
    (hbag : Conversation.bag s = .ok bag) (htext : Fills c.messageTemplate bag) (sv : Services σ)
    (o : Office σ) :
    ∃ after, (handOver sv c s).run.run o =
      (.ok (handoffFields (filledText c.messageTemplate bag)), after) := by
  obtain ⟨more, hfill⟩ := run_fill htext o
  unfold handOver
  rw [run_bag_bind hbag, Task.run_bind, hfill]
  simp only
  rw [Task.run_bind, Task.run_sure, Duty.run_outcome]
  -- Whether the book took the handoff or not, the text is the same.
  rcases (arrange sv c.notifyChannel s bag).run.run (o.told more) with ⟨fault | _, after⟩
  · exact ⟨_, rfl⟩
  · exact ⟨_, rfl⟩

/-! ## Steps -/

/-- Nothing but its collaborators can keep a step from its update. -/
def Action.Ready (settings : Settings) (s : State) (bag : Entries) : Action → Prop
  | .emotionDetector c => CanAsk c.systemPrompt c.userPrompt bag s false
  | .rag c => CanSearch settings c bag s
  | .smartChat _ => True
  | .escalationOffer c =>
    CanAsk c.systemPrompt c.userPrompt (offerBag s bag) s false ∧
      Fills c.offerMessageTemplate (offerBag s bag)
  | .handoff c => Fills c.messageTemplate bag

/-- The update of a step, by what its model decided or wrote or failed to. -/
def Action.Outcome (sv : Services σ) (s : State) (bag : Entries) (o : Office σ) :
    Action → Fields → Prop
  | .emotionDetector c, update =>
    update = moodUpdate (lastWords bag)
      (decision sv c.llm .mood (promptsOf c.systemPrompt c.userPrompt bag s false) o.world)
  | .rag c, update => KnowledgeUpdate sv c bag s o update
  | .smartChat c, update =>
    ∃ drafted, update = replyUpdate drafted ∧
      ∀ content, Fills c.systemPrompt bag → Fills c.userPrompt bag →
        replyContent c (filledText c.userPrompt bag) s = .ok content →
        drafted = ((Model.write sv.models (.writing sv.settings c.llm)
          (Model.Prompt.pair (filledText c.systemPrompt bag) content)).run.run o.world).1
  | .escalationOffer c, update =>
    update = offerUpdate (isWeak s) (filledText c.offerMessageTemplate (offerBag s bag))
      (decision sv c.llm .escalation
        (promptsOf c.systemPrompt c.userPrompt (offerBag s bag) s false) o.world)
  | .handoff c, update => update = handoffFields (filledText c.messageTemplate bag)

/-- **A step that is ready ends with an update, whatever models, stores and books do.** -/
theorem steps_survive_failures (sv : Services σ) {s : State} {bag : Entries}
    (hbag : Conversation.bag s = .ok bag) {action : Action}
    (hready : action.Ready sv.settings s bag) (o : Office σ) :
    ∃ update after, (action.perform sv s).run.run o = (.ok update, after) ∧
      action.Outcome sv s bag o update := by
  cases action with
  | emotionDetector c =>
    obtain ⟨after, hrun⟩ := run_detectMood hbag hready sv o
    exact ⟨_, after, hrun, rfl⟩
  | rag c => exact run_lookUpKnowledge hbag (lastWords_ne_empty hbag) hready o
  | smartChat c =>
    refine ⟨_, _, Task.run_sure (reply sv c s) o, _, run_reply sv c s o, ?_⟩
    exact fun content hinstructions hquestion hcontent =>
      run_draft hbag hinstructions hquestion hcontent sv o
  | escalationOffer c =>
    obtain ⟨after, hrun⟩ := run_offerEscalation hbag hready.1 hready.2 sv o
    exact ⟨_, after, hrun, rfl⟩
  | handoff c =>
    obtain ⟨after, hrun⟩ := run_handOver hbag hready sv o
    exact ⟨_, after, hrun, rfl⟩

/-- An office in which nothing has happened yet. -/
def quietOffice : Office Unit :=
  ⟨⟨(), [], []⟩, .ofLists [] [] [] [], .empty, .empty⟩

/-- A state in which the customer has said one thing. -/
def saying (body : Value) : State :=
  .start [⟨.text "customer", some body, none⟩] [] []

theorem steps_survive_failures_silentModel :
    ∃ settings after, Settings.shape (.object []) = .valid settings ∧
      ((Action.emotionDetector ⟨"s", "u", none⟩).perform (Shift.quietServices settings)
        (saying (.text "I cannot log in"))).run.run quietOffice =
          (.ok (neutralFields "I cannot log in"), after) := by
  obtain ⟨settings, hsettings⟩ : ∃ settings, Settings.shape (.object []) = .valid settings := ⟨_, rfl⟩
  obtain ⟨bag, hbag, hwords, hs, hu⟩ : ∃ bag,
      Conversation.bag (saying (.text "I cannot log in")) = .ok bag ∧
      lastWords bag = "I cannot log in" ∧ Fills "s" bag ∧ Fills "u" bag := by
    refine ⟨_, rfl, rfl, ?_, ?_⟩
    · unfold Fills
      decide +kernel
    · unfold Fills
      decide +kernel
  have hready : (Action.emotionDetector ⟨"s", "u", none⟩).Ready
      (Shift.quietServices settings).settings (saying (.text "I cannot log in")) bag :=
    ⟨hs, hu, _, rfl⟩
  obtain ⟨update, after, hrun, hupdate⟩ :=
    steps_survive_failures (Shift.quietServices settings) hbag hready quietOffice
  have hneutral : update = neutralFields "I cannot log in" := by
    have hcalm : Triage.handoffReason? "I cannot log in" = none := by decide +kernel
    rw [show update = _ from hupdate, hwords]
    unfold moodUpdate
    rw [hcalm]
    rfl
  exact ⟨settings, after, hsettings, hneutral ▸ hrun⟩

/-! ### Images that cannot be collected -/

/-- An image that cannot be collected ends a step before its model is asked. -/
theorem run_detectMood_of_images_error {c : EmotionConfig} {s : State} {bag : Entries}
    {misfit : Misfit} (hbag : Conversation.bag s = .ok bag)
    (hcalm : Triage.handoffReason? (lastWords bag) = none)
    (hinstructions : Fills c.systemPrompt bag) (hquestion : Fills c.userPrompt bag)
    (himages : images s false = .error misfit) (sv : Services σ) (o : Office σ) :
    ((detectMood sv c s).run.run o).1 = .error (.misfit misfit) := by
  obtain ⟨first, hfirst⟩ := run_fill hinstructions o
  obtain ⟨second, hsecond⟩ := run_fill hquestion (o.told first)
  have hparts := promptParts_eq (filledText c.userPrompt bag) s false
  rw [himages] at hparts
  unfold detectMood decisionPrompts
  rw [run_bag_bind hbag]
  simp only [hcalm, bind_assoc]
  rw [Task.run_bind, hfirst]
  simp only
  rw [Task.run_bind, hsecond]
  simp only
  rw [Task.run_bind, hparts]
  rfl

/-- An image whose address is an object. -/
def oddImage : Value :=
  .list [.object [("type", .text "image_url"),
    ("image_url", .object [("url", .object [("a", .int 1)])])]]

theorem oddImage_ends_step :
    ∃ settings bag, Settings.shape (.object []) = .valid settings ∧
      Conversation.bag (saying oddImage) = .ok bag ∧ Fills "s" bag ∧ Fills "u" bag ∧
      (((Action.emotionDetector ⟨"s", "u", none⟩).perform (Shift.quietServices settings)
        (saying oddImage)).run.run quietOffice).1 = .error (.misfit (.notKey .object)) := by
  obtain ⟨settings, hsettings⟩ : ∃ settings, Settings.shape (.object []) = .valid settings := ⟨_, rfl⟩
  obtain ⟨bag, hbag, hwords, hs, hu⟩ : ∃ bag, Conversation.bag (saying oddImage) = .ok bag ∧
      lastWords bag = "[图片]" ∧ Fills "s" bag ∧ Fills "u" bag := by
    refine ⟨_, rfl, rfl, ?_, ?_⟩
    · unfold Fills
      decide +kernel
    · unfold Fills
      decide +kernel
  have hcalm : Triage.handoffReason? (lastWords bag) = none := by
    rw [hwords]
    decide +kernel
  have himages : images (saying oddImage) false = .error (.notKey .object) := rfl
  have hrun := run_detectMood_of_images_error (c := ⟨"s", "u", none⟩) hbag hcalm hs hu himages
    (Shift.quietServices settings) quietOffice
  exact ⟨settings, bag, hsettings, hbag, hs, hu, hrun⟩

end Helpdesk.Workflow
