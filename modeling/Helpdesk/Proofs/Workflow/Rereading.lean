import Helpdesk.Proofs.Text.Blank
import Helpdesk.Proofs.Validation
import Helpdesk.Workflow.Definition

/-!
# Helpdesk.Proofs.Workflow.Rereading — what was read stays the same when it is read again.

Authors have some freedom in what they write: two spellings of most names, identifiers and conditions
of any kind, parts left out. The engine writes what it has read in one form, with underscores in the
names and nothing left out. All that is left of the freedom is in the conditions of edges, and reading
settles them: a condition that was read is a text with something in it and without blanks around it.
Records are read as the engine writes them exactly when they are settled, so a second reading changes
nothing.
-/
namespace Helpdesk.Workflow

open Shape

/-! ## Configurations

The engine writes every field, and under its own name only. So each field is found there, whichever
name an author would have used. -/

/-- A record that may be absent is told from null. -/
theorem orNull_valueOf? {α : Type} {shape : Shape α} {toValue : α → Value} {o : Option α}
    (hnull : ∀ a, toValue a ≠ .null) (h : ∀ a ∈ o, shape (toValue a) = .valid a) :
    orNull shape (valueOf? toValue o) = .valid o := by
  rcases o with _ | a
  · rfl
  · show orNull shape (toValue a) = _
    rw [orNull_of_ne (hnull a), h a rfl]
    rfl

theorem ModelChoice.shape_toValue (c : ModelChoice) : shape c.toValue = .valid c := by
  rw [shape, toValue, record_object,
    optional_of_present? (by rfl) (orNull_text_ofText? c.apiKey),
    optional_of_present? (by rfl) (orNull_text_ofText? c.baseUrl),
    optional_of_present? (by rfl) (orNull_text_ofText? c.model)]
  rfl

theorem orNull_modelChoice (c : Option ModelChoice) :
    orNull ModelChoice.shape (valueOf? ModelChoice.toValue c) = .valid c :=
  orNull_valueOf? (fun _ => Value.noConfusion) fun c _ => c.shape_toValue

theorem EmotionConfig.shape_toValue (c : EmotionConfig) : shape c.toValue = .valid c := by
  rw [shape, toValue, record_object,
    optional_of_present? (by rfl) (text_text c.systemPrompt),
    optional_of_present? (by rfl) (text_text c.userPrompt),
    optional_of_present? (by rfl) (orNull_modelChoice c.llm)]
  rfl

theorem IntentConfig.shape_toValue (c : IntentConfig) : shape c.toValue = .valid c := by
  rw [shape, toValue, record_object,
    optional_of_present? (by rfl) (text_text c.systemPrompt),
    optional_of_present? (by rfl) (text_text c.userPrompt),
    optional_of_present? (by rfl) (orNull_modelChoice c.llm)]
  rfl

theorem RagConfig.shape_toValue (c : RagConfig) : shape c.toValue = .valid c := by
  have hintent : orNull IntentConfig.shape (valueOf? IntentConfig.toValue c.intentAnalysis) =
      .valid c.intentAnalysis :=
    orNull_valueOf? (fun _ => Value.noConfusion) fun i _ => i.shape_toValue
  rw [shape, toValue, record_object,
    optional_of_present? (by rfl) (bool_bool c.enableIntentAnalysis),
    optional_of_present? (by rfl) hintent,
    optional_of_present? (by rfl) (text_text c.querySystemPrompt),
    optional_of_present? (by rfl) (text_text c.queryUserPrompt),
    optional_of_present? (by rfl) (orNull_modelChoice c.queryLlm)]
  rfl

theorem VisionConfig.shape_toValue (c : VisionConfig) : shape c.toValue = .valid c := by
  rw [shape, toValue, record_object,
    optional_of_present? (by rfl) (bool_bool c.includeTicketDescriptionImages)]
  rfl

theorem SmartChatConfig.shape_toValue (c : SmartChatConfig) : shape c.toValue = .valid c := by
  have hvision : orNull VisionConfig.shape (valueOf? VisionConfig.toValue c.vision) =
      .valid c.vision :=
    orNull_valueOf? (fun _ => Value.noConfusion) fun v _ => v.shape_toValue
  rw [shape, toValue, record_object,
    optional_of_present? (by rfl) (text_text c.systemPrompt),
    optional_of_present? (by rfl) (text_text c.userPrompt),
    optional_of_present? (by rfl) (orNull_modelChoice c.llm),
    optional_of_present? (by rfl) (bool_bool c.enableVision),
    optional_of_present? (by rfl) hvision]
  rfl

theorem EscalationConfig.shape_toValue (c : EscalationConfig) : shape c.toValue = .valid c := by
  rw [shape, toValue, record_object,
    optional_of_present? (by rfl) (text_text c.systemPrompt),
    optional_of_present? (by rfl) (text_text c.userPrompt),
    optional_of_present? (by rfl) (text_text c.offerMessageTemplate),
    optional_of_present? (by rfl) (orNull_modelChoice c.llm)]
  rfl

theorem HandoffConfig.shape_toValue (c : HandoffConfig) : shape c.toValue = .valid c := by
  rw [shape, toValue, record_object,
    optional_of_present? (by rfl) (text_text c.messageTemplate),
    optional_of_present? (by rfl) (text_text c.notifyChannel)]
  rfl

/-! ## Nodes -/

theorem NodeKind.lookup_name (kind : NodeKind) : NodeKind.names.lookup kind.name = some kind := by
  cases kind <;> rfl

namespace Node

/-- The entries of a node. -/
def entries (n : Node) : Entries :=
  [("id", .text n.id), ("name", .ofText? n.name), ("type", .text n.role.kind.name)] ++
    configEntry n.role

theorem config_entries {α : Type} {n : Node} {shape : Shape α} {otherwise c : α} {v : Value}
    (hentry : configEntry n.role = [("config", v)]) (hv : shape v = .valid c) :
    config shape otherwise n.entries = .valid c := by
  have hfound : present? ["config"] n.entries = some ("config", v) := by
    rw [entries, hentry]
    rfl
  exact optional_of_present? hfound hv

/-- The kind of a node says how its configuration is read. -/
theorem roleOf_entries (n : Node) : roleOf n.entries n.role.kind = .valid n.role := by
  cases hrole : n.role with
  | start => rfl
  | finish => rfl
  | action a =>
    cases a with
    | emotionDetector c =>
      rw [Role.kind, roleOf, config_entries (by rw [hrole]; rfl) c.shape_toValue]
      rfl
    | rag c =>
      rw [Role.kind, roleOf, config_entries (by rw [hrole]; rfl) c.shape_toValue]
      rfl
    | smartChat c =>
      rw [Role.kind, roleOf, config_entries (by rw [hrole]; rfl) c.shape_toValue]
      rfl
    | escalationOffer c =>
      rw [Role.kind, roleOf, config_entries (by rw [hrole]; rfl) c.shape_toValue]
      rfl
    | handoff c =>
      rw [Role.kind, roleOf, config_entries (by rw [hrole]; rfl) c.shape_toValue]
      rfl

/-- Every node is read as it was written. -/
theorem shape_toValue (n : Node) : shape n.toValue = .valid n := by
  have htype : Entries.value? "type" n.entries = some (.text n.role.kind.name) := rfl
  have hfields : fields n.role.kind n.entries = .valid n := by
    rw [fields, required_of_present? (by rfl) (asText_text n.id),
      optional_of_present? (by rfl) (orNull_text_ofText? n.name), roleOf_entries]
    rfl
  show shape (.object n.entries) = .valid n
  simp only [shape, htype, NodeKind.lookup_name, hfields, Checked.within]

end Node

/-! ## Edges -/

namespace Edge

/-- A condition with something in it and without blanks around it. -/
def SettledCondition (condition : Option String) : Prop :=
  ∀ s ∈ condition, s ≠ "" ∧ Text.trim s = s

/-- The condition of an edge is settled. -/
def Settled (e : Edge) : Prop :=
  SettledCondition e.condition

theorem conditionShape_of_ne {v : Value} (h : v ≠ .null) :
    conditionShape v = .valid
      (if (Text.trim v.plainText).isEmpty then none else some (Text.trim v.plainText)) := by
  cases v with
  | null => exact absurd rfl h
  | _ => rfl

theorem ensures_conditionShape : conditionShape.Ensures SettledCondition := by
  intro v condition h s hs
  by_cases hnull : v = .null
  · subst hnull
    cases h
    cases hs
  · rw [conditionShape_of_ne hnull, Checked.valid.injEq] at h
    subst h
    split at hs
    · cases hs
    · next hne =>
      cases hs
      exact ⟨by simpa [String.isEmpty_iff] using hne, Text.trim_trim _⟩

theorem conditionShape_ofText? {condition : Option String} (h : SettledCondition condition) :
    conditionShape (.ofText? condition) = .valid condition := by
  rcases condition with _ | s
  · rfl
  · obtain ⟨hne, htrim⟩ := h s rfl
    show conditionShape (.text s) = _
    rw [conditionShape_of_ne Value.noConfusion, Value.plainText, htrim,
      if_neg (by simpa [String.isEmpty_iff] using hne)]

/-- Edges are settled once they were read. -/
theorem ensures_shape : shape.Ensures Settled := by
  refine Ensures.record fun e edge h => ?_
  simp only [Checked.seq_eq_valid_iff, Checked.map_eq_valid_iff] at h
  obtain ⟨_, _, ⟨_, _, ⟨_, condition, ⟨_, _, ⟨_, _, ⟨_, _, rfl⟩, _, rfl⟩, _, rfl⟩, hcondition, rfl⟩,
    _, rfl⟩, _, rfl⟩ := h
  exact ensures_conditionShape.optional hcondition fun s hs => (by cases hs)

theorem shape_toValue {e : Edge} (h : e.Settled) : shape e.toValue = .valid e := by
  rw [shape, toValue, record_object,
    required_of_present? (by rfl) (asText_text e.id),
    required_of_present? (by rfl) (asText_text e.source),
    required_of_present? (by rfl) (asText_text e.target),
    optional_of_present? (by rfl) (conditionShape_ofText? h),
    optional_of_present? (by rfl) (orNull_text_ofText? e.sourceHandle),
    optional_of_present? (by rfl) (orNull_text_ofText? e.targetHandle)]
  rfl

end Edge

/-! ## Definitions and bindings -/

namespace Definition

/-- The edges of a workflow are settled. -/
def Settled (d : Definition) : Prop :=
  ∀ e ∈ d.edges, e.Settled

theorem ensures_shape : shape.Ensures Settled := by
  refine Ensures.record fun e d h => ?_
  simp only [Checked.seq_eq_valid_iff, Checked.map_eq_valid_iff] at h
  obtain ⟨_, edges, ⟨_, _, ⟨_, _, ⟨_, _, rfl⟩, _, rfl⟩, _, rfl⟩, hedges, rfl⟩ := h
  exact Edge.ensures_shape.list.optional hedges fun _ he => absurd he List.not_mem_nil

theorem shape_toValue_iff {d : Definition} : shape d.toValue = .valid d ↔ d.Settled := by
  refine ⟨ensures_shape _ _, fun h => ?_⟩
  rw [shape, toValue, record_object,
    required_of_present? (by rfl) (asText_text d.id),
    optional_of_present? (by rfl) (text_text d.name),
    optional_of_present? (by rfl) (list_map fun n _ => n.shape_toValue),
    optional_of_present? (by rfl) (list_map fun e he => Edge.shape_toValue (h e he))]
  rfl

end Definition

namespace Binding

/-- The workflow of a binding, if it is given, is settled. -/
def Settled (b : Binding) : Prop :=
  ∀ d ∈ b.workflow, d.Settled

theorem ensures_shape : shape.Ensures Settled := by
  refine Ensures.record fun e b h => ?_
  simp only [Checked.seq_eq_valid_iff, Checked.map_eq_valid_iff] at h
  obtain ⟨_, workflow, ⟨_, _, ⟨_, _, ⟨_, _, ⟨_, _, ⟨_, _, rfl⟩, _, rfl⟩, _, rfl⟩, _, rfl⟩, _, rfl⟩,
    hworkflow, rfl⟩ := h
  exact Definition.ensures_shape.orNull.optional hworkflow fun d hd => (by cases hd)

theorem identifier_text (s : String) : identifier (.text s) = .valid s := rfl

theorem shape_toValue_iff {b : Binding} : shape b.toValue = .valid b ↔ b.Settled := by
  refine ⟨ensures_shape _ _, fun h => ?_⟩
  have hworkflow : orNull Definition.shape (valueOf? Definition.toValue b.workflow) =
      .valid b.workflow :=
    orNull_valueOf? (fun _ => Value.noConfusion) fun d hd => Definition.shape_toValue_iff.mpr (h d hd)
  rw [shape, toValue, record_object,
    required_of_present? (by rfl) (identifier_text b.id),
    required_of_present? (by rfl) (text_text b.scope),
    required_of_present? (by rfl) (int_int b.aiUserId),
    optional_of_present? (by rfl) (asTextOrNull_ofText? b.workflowId),
    optional_of_present? (by rfl) (bool_bool b.isActive),
    optional_of_present? (by rfl) hworkflow]
  rfl

end Binding

/-- **Reading again changes nothing.** Whatever value a workflow was read from, what the engine writes
for it is read, and as the same workflow; the same is true of a binding with all that it holds. -/
theorem rereading_changes_nothing :
    (∀ (v : Value) (d : Definition), Definition.shape v = .valid d →
      Definition.shape d.toValue = .valid d) ∧
    ∀ (v : Value) (b : Binding), Binding.shape v = .valid b →
      Binding.shape b.toValue = .valid b := by
  constructor
  · intro v d h
    exact Definition.shape_toValue_iff.mpr (Definition.ensures_shape v d h)
  · intro v b h
    exact Binding.shape_toValue_iff.mpr (Binding.ensures_shape v b h)

/-- A workflow as an author wrote it, in both spellings of the names, with identifiers of several kinds
and with conditions that are blank, untidy and no text at all. -/
def returnsDraft : Value := .object [
  ("id", .int 7),
  ("nodes", .list [
    .object [("type", .text "start"), ("id", .int 1)],
    .object [("id", .text "search"), ("type", .text "rag"), ("config", .object [
      ("enableIntentAnalysis", .text "yes"),
      ("intentAnalysisConfig", .object [
        ("intentAnalysisLLM", .object [("apiKey", .text "k"), ("model", .null)])]),
      ("query_user_prompt", .text "Which return?")])],
    .object [("id", .bool true), ("name", .text "Done"), ("type", .text "end")]]),
  ("edges", .list [
    .object [("id", .int 1), ("source", .int 1), ("target", .text "search"), ("condition", .text " ")],
    .object [("id", .int 2), ("source", .text "search"), ("target", .bool true),
      ("condition", .text " escalated "), ("sourceHandle", .text "out")],
    .object [("id", .int 3), ("source", .int 1), ("target", .bool true), ("condition", .bool true)]])]

/-- The workflow that is read from the draft. -/
def returns : Definition where
  id := "7"
  name := ""
  nodes := [
    ⟨"1", none, .start⟩,
    ⟨"search", none, .action (.rag
      ⟨true, some ⟨"", "", some ⟨some "k", none, none⟩⟩, "", "Which return?", none⟩)⟩,
    ⟨"True", some "Done", .finish⟩]
  edges := [
    ⟨"1", "1", "search", none, none, none⟩,
    ⟨"2", "search", "True", some "escalated", some "out", none⟩,
    ⟨"3", "1", "True", some "True", none, none⟩]

/-- A binding of the draft. -/
def returnsBindingDraft : Value := .object [
  ("id", .list [.int 1]), ("scope", .text "returns"), ("aiUserId", .text "42"), ("workflowId", .int 7),
  ("workflow", returnsDraft)]

theorem rereading_changes_nothing_returns :
    (Definition.shape returnsDraft = .valid returns ∧
      Definition.shape returns.toValue = .valid returns) ∧
    ∃ b, Binding.shape returnsBindingDraft = .valid b ∧ b.workflow = some returns ∧
      Binding.shape b.toValue = .valid b := by
  have hdraft : Definition.shape returnsDraft = .valid returns := rfl
  have hbinding : Binding.shape returnsBindingDraft =
      .valid ⟨"[1]", "returns", 42, some "7", true, some returns⟩ := rfl
  exact ⟨⟨hdraft, rereading_changes_nothing.1 _ _ hdraft⟩, _, hbinding, rfl,
    rereading_changes_nothing.2 _ _ hbinding⟩

end Helpdesk.Workflow
