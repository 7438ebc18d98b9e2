import Helpdesk.Conversation.Bag
import Helpdesk.Proofs.Entries
import Helpdesk.Proofs.Validation

/-!
# Helpdesk.Proofs.Conversation.Bag — what is in the bag and in the prompts of a state.
-/
namespace Helpdesk.Conversation

/-- Where the customer said nothing the ticket is named. -/
theorem customerText_ne_empty {turns : List Turn} {ticket : Entries} {text : String}
    (h : customerText turns ticket = .ok text) : text ≠ "" := by
  have hchoice : ∀ said title module : String,
      (if (!said.isEmpty) = true then pure said
        else pure ("问题: " ++ title ++ "，发生模块 " ++ module)) =
          (Except.ok text : Except Misfit String) → text ≠ "" := by
    intro said title module hsaid
    split at hsaid
    · rename_i hsome
      cases hsaid
      simpa using hsome
    · cases hsaid
      simp
  obtain ⟨turn, -, h⟩ := bind_eq_ok_iff.mp h
  simp only at h
  split at h
  · split at h
    · obtain ⟨said, -, h⟩ := bind_eq_ok_iff.mp h
      exact hchoice said _ _ h
    · cases h
  · exact hchoice "" _ _ h

/-- What the bag says of the conversation, of the grounds for a handoff and of the ticket. -/
theorem exists_texts_of_bag {s : State} {names : Entries} (h : bag s = .ok names) :
    ∃ text title, customerText s.turns s.ticket = .ok text ∧
      titleText ((Entries.value? "title" s.ticket).getD .null) = .ok title ∧
      ∀ name v, (name, v) ∈ [
          ("lastCustomerMessage", .text text),
          ("handoffReason", s.fields.handoffReason.getD (.text "")),
          ("userQuery", s.fields.userQuery.getD (.text "")),
          ("ticketTitle", title),
          ("ticketModule",
            ((Entries.value? "module" s.ticket).getD .null).orElse (.text notGiven))] →
        Entries.value? name names = some v := by
  obtain ⟨names', hderived, hbag⟩ := bind_eq_ok_iff.mp h
  obtain ⟨text, htext, hderived⟩ := bind_eq_ok_iff.mp hderived
  obtain ⟨description, -, hderived⟩ := bind_eq_ok_iff.mp hderived
  obtain ⟨title, htitle, hderived⟩ := bind_eq_ok_iff.mp hderived
  obtain ⟨history, -, hderived⟩ := bind_eq_ok_iff.mp hderived
  obtain ⟨queries, -, hderived⟩ := bind_eq_ok_iff.mp hderived
  rw [← Except.ok.inj hbag, ← Except.ok.inj hderived]
  refine ⟨text, title, htext, htitle, fun name v hmem => ?_⟩
  rw [Entries.value?_putAll (by simp [Entries.names])]
  simp only [List.mem_cons, List.not_mem_nil, or_false, Prod.mk.injEq] at hmem
  rcases hmem with ⟨rfl, rfl⟩ | ⟨rfl, rfl⟩ | ⟨rfl, rfl⟩ | ⟨rfl, rfl⟩ | ⟨rfl, rfl⟩
  all_goals simp [Entries.value?]

/-- What the bag says of the conversation and of the grounds for a handoff. -/
theorem exists_customerText_of_bag {s : State} {names : Entries} (h : bag s = .ok names) :
    ∃ text, customerText s.turns s.ticket = .ok text ∧
      Entries.value? "lastCustomerMessage" names = some (.text text) ∧
      Entries.value? "handoffReason" names = some (s.fields.handoffReason.getD (.text "")) ∧
      Entries.value? "userQuery" names = some (s.fields.userQuery.getD (.text "")) := by
  obtain ⟨text, title, htext, -, hvalue⟩ := exists_texts_of_bag h
  exact ⟨text, htext, hvalue _ _ (by simp), hvalue _ _ (by simp), hvalue _ _ (by simp)⟩

/-- The customer's last words stand in the bag; where there are none the ticket speaks for them. -/
theorem value?_lastCustomerMessage {s : State} {names : Entries} (h : bag s = .ok names) :
    ∃ text, text ≠ "" ∧ Entries.value? "lastCustomerMessage" names = some (.text text) := by
  obtain ⟨text, htext, hvalue, -⟩ := exists_customerText_of_bag h
  exact ⟨text, customerText_ne_empty htext, hvalue⟩

/-! ## What steps write -/

/-- The names that stand for what steps write. -/
def writtenNames : List String :=
  ["sentiment", "stylePrompt", "handoffReason", "handoffPriority", "handoffRequired",
    "proposeEscalation", "escalationReason", "retrievedContext", "retrievedContextCount",
    "retrievedContextString", "hasRetrievedContext", "userQuery", "searchQueries"]

theorem elements_of_list (queries : List Value) :
    ((Value.list queries).orElse (.list [])).elements = .ok queries := by
  cases queries <;> rfl

/-- **Names that steps do not write**: what they stand for is a matter of the conversation, the ticket
and the variables alone. -/
theorem map_value?_bag_of_agrees {s t : State} (hturns : s.turns = t.turns)
    (hticket : s.ticket = t.ticket) (hvars : s.fields.vars = t.fields.vars)
    (hs : ∃ queries, s.fields.searchQueries = some (.list queries))
    (ht : ∃ queries, t.fields.searchQueries = some (.list queries)) {name : String}
    (hname : name ∉ writtenNames) :
    (bag s).map (Entries.value? name) = (bag t).map (Entries.value? name) := by
  obtain ⟨squeries, hs⟩ := hs
  obtain ⟨tqueries, ht⟩ := ht
  unfold bag derived
  simp only [hs, ht, Option.getD_some, elements_of_list, hturns, hticket, hvars]
  rcases customerText t.turns t.ticket with misfit | text
  · rfl
  rcases descriptionText ((Entries.value? "description" t.ticket).getD .null) with misfit | description
  · rfl
  rcases titleText ((Entries.value? "title" t.ticket).getD .null) with misfit | title
  · rfl
  rcases history t.turns historyLimit with misfit | history
  · rfl
  refine congrArg Except.ok ?_
  rw [Entries.value?_putAll (by simp [Entries.names]), Entries.value?_putAll (by simp [Entries.names])]
  congr 1
  exact Entries.value?_eq_of_filter_eq (p := fun name => decide (name ∉ writtenNames))
    (decide_eq_true hname) rfl

/-! ## Images -/

/-- The images that a step shows its model. -/
def images (s : State) (ofTicket : Bool) : Except Misfit (List Value) := do
  distinctKeys (← sharedImages s ofTicket)

theorem promptParts_eq (prompt : String) (s : State) (ofTicket : Bool) :
    promptParts prompt s ofTicket = (images s ofTicket).map fun shown => .list
      (RichText.textPart prompt :: (Text.lastItems imageLimit shown).map RichText.imagePart) := by
  unfold promptParts images
  rcases sharedImages s ofTicket with misfit | shared
  · rfl
  · show (distinctKeys shared >>= _) = (distinctKeys shared).map _
    rcases distinctKeys shared with misfit | shown <;> rfl

end Helpdesk.Conversation
