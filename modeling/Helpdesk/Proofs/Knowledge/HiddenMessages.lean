import Helpdesk.Knowledge.Indexing
import Helpdesk.Proofs.World

/-!
# Helpdesk.Proofs.Knowledge.HiddenMessages — what indexing a conversation tells about hidden messages.

Messages that customers may not see reach the index by one way only. The transcript is made of the
visible messages and is numbered by them, and chunks are made of the transcript and the summary. The
images of a conversation are collected from all its messages, though, and go along with the question
for the summary. So without images in hidden messages nothing depends on them, and with images
nothing but that question, and through it what the model makes of them.
-/
namespace Helpdesk.Knowledge

variable {σ : Type}

/-- Two lists of messages that show a customer the same. -/
def ShowSame (messages others : List Message) : Prop :=
  messages.filter Message.isVisible = others.filter Message.isVisible

/-- A model answers a question the same, whichever images go along with it. -/
def AnswersAlike (p : Model.Provider σ) (images others : List Value) : Prop :=
  ∀ spec form prompt, p.decide spec form [⟨.human, withImages prompt images⟩] =
    p.decide spec form [⟨.human, withImages prompt others⟩]

theorem ShowSame.transcript_eq {messages others : List Message} (h : ShowSame messages others)
    (customer : Option Int) (limit : Int) :
    transcript messages customer limit = transcript others customer limit := by
  unfold transcript
  rw [show messages.filter Message.isVisible = others.filter Message.isVisible from h]

/-! ## Images -/

/-- The images of some messages, one message after another. -/
def attachedImages (messages : List Message) : Except Misfit (List Value) :=
  (messages.mapM fun m => RichText.images m.content).map List.flatten

theorem attachedImages_cons (m : Message) (rest : List Message) :
    attachedImages (m :: rest) = (RichText.images m.content).bind fun own =>
      (attachedImages rest).map (own ++ ·) := by
  unfold attachedImages
  rw [List.mapM_cons]
  rcases RichText.images m.content with misfit | own
  · rfl
  · generalize List.mapM (fun m => RichText.images m.content) rest = found
    rcases found with misfit | found <;> rfl

/-- A hidden message without images adds none, and it cannot fail either. -/
theorem attachedImages_filter {messages : List Message}
    (hnone : ∀ m ∈ messages, m.isVisible = false → RichText.images m.content = .ok []) :
    attachedImages (messages.filter Message.isVisible) = attachedImages messages := by
  induction messages with
  | nil => rfl
  | cons m rest ih =>
    have hrest := ih fun m hm => hnone m (List.mem_cons_of_mem _ hm)
    rw [attachedImages_cons m rest]
    rcases hvisible : m.isVisible with _ | _
    · rw [List.filter_cons_of_neg (by simp [hvisible]), hrest, hnone m List.mem_cons_self hvisible]
      rcases attachedImages rest with misfit | found <;> rfl
    · rw [List.filter_cons_of_pos hvisible, attachedImages_cons, hrest]

theorem conversationImages_eq (t : Ticket) (messages : List Message) :
    conversationImages t messages = (RichText.images t.description).bind fun ofTicket =>
      (attachedImages messages).map (ofTicket ++ ·) := by
  unfold conversationImages attachedImages
  rcases RichText.images t.description with misfit | ofTicket
  · rfl
  · generalize List.mapM (fun m => RichText.images m.content) messages = found
    rcases found with misfit | found <;> rfl

theorem ShowSame.images_eq {messages others : List Message} (h : ShowSame messages others)
    (hnone : ∀ m ∈ messages ++ others, m.isVisible = false → RichText.images m.content = .ok [])
    (t : Ticket) : conversationImages t messages = conversationImages t others := by
  have hmessages := attachedImages_filter fun m hm => hnone m (List.mem_append_left _ hm)
  have hothers := attachedImages_filter fun m hm => hnone m (List.mem_append_right _ hm)
  rw [conversationImages_eq, conversationImages_eq, ← hmessages, ← hothers,
    show messages.filter Message.isVisible = others.filter Message.isVisible from h]

/-! ## Indexing -/

theorem AnswersAlike.summarize_eq {p : Model.Provider σ} {images others : List Value}
    (h : AnswersAlike p images others) (s : Settings) (t : Ticket) (prompt : String) :
    summarize p s t (withImages prompt images) = summarize p s t (withImages prompt others) := by
  unfold summarize Model.decide
  simp only [h _ _ prompt]

/-- **Hidden messages reach the index by their images only.** Conversations that show a customer the
same are indexed the same, prompts and chunks and writes included, when hidden messages hold no
images. When they do, their images are part of what the model is asked; with the same answer from the
model the chunks and the writes are the same again. -/
theorem hidden_messages_only_lend_images {messages others : List Message}
    (h : ShowSame messages others) (p : Model.Provider σ) (store : Store σ) (s : Settings)
    (source : SourceType) (t : Ticket) :
    ((∀ m ∈ messages ++ others, m.isVisible = false → RichText.images m.content = .ok []) →
      indexConversation p store s source t messages =
        indexConversation p store s source t others) ∧
    ∀ found lent, conversationImages t messages = .ok found → conversationImages t others = .ok lent →
      AnswersAlike p found lent →
        indexConversation p store s source t messages =
          indexConversation p store s source t others := by
  refine ⟨?_, ?_⟩
  · intro hnone
    unfold indexConversation
    rw [h.transcript_eq, h.images_eq hnone]
  · intro found lent hfound hlent halike
    have hquestion : ∀ prompt, summarize p s t (withImages prompt found) =
        summarize p s t (withImages prompt lent) := halike.summarize_eq s t
    unfold indexConversation
    rw [h.transcript_eq, hfound, hlent]
    refine congrArg (_ >>= ·) (funext fun transcript => ?_)
    show (Attempt.ofMisfit (summaryPrompt t transcript) >>= fun prompt => _) =
      (Attempt.ofMisfit (summaryPrompt t transcript) >>= fun prompt => _)
    refine congrArg (_ >>= ·) (funext fun prompt => ?_)
    rw [hquestion prompt]

/-- A note among staff. -/
def staffNote (content : Value) : Message :=
  ⟨2, "T1", none, some "agent", content, ⟨0, none⟩, true, false⟩

theorem hidden_messages_only_lend_images_textNote :
    ∃ messages others : List Message, messages.length ≠ others.length ∧ ShowSame messages others ∧
      ∀ (σ : Type) (p : Model.Provider σ) (store : Store σ) (s : Settings) (source : SourceType)
        (t : Ticket), indexConversation p store s source t messages =
          indexConversation p store s source t others := by
  have hsame : ShowSame [staffNote (.text "call back")] [] := rfl
  refine ⟨[staffNote (.text "call back")], [], by decide, hsame, ?_⟩
  intro σ p store s source t
  refine (hidden_messages_only_lend_images hsame p store s source t).1 ?_
  intro m hm _
  rw [List.mem_singleton.mp hm]
  rfl

/-! ### An image in a note among staff -/

/-- A model that gives no answer and remembers what it was asked. -/
def attentiveModel : Model.Provider (List Value) where
  build := fun _ => pure ()
  decide := fun _ _ prompts => do
    modify fun heard => heard ++ prompts.map Model.Prompt.content
    throw .timedOut
  write := fun _ _ => throw .timedOut

/-- A store that takes every write and finds nothing. -/
def willingStore (σ : Type) : Store σ where
  search := fun _ _ _ => pure []
  neighbors := fun _ _ _ _ => pure []
  countUse := fun _ _ => pure ()
  ofSource := fun _ _ => pure []
  upsert := fun _ => pure ()
  deleteSource := fun _ _ => pure ()
  health := pure true
  clock := pure 0

/-- What a model was asked while a conversation was indexed. -/
def heardWhile (s : Settings) (t : Ticket) (messages : List Message) : List Value :=
  ((indexConversation attentiveModel (willingStore _) s .historicalTicket t messages).run.run
    ⟨[], [], []⟩).2.outside

theorem heardWhile_eq {s : Settings} {t : Ticket} {messages : List Message} {said prompt : String}
    {found : List Value} (hsaid : transcript messages t.customerId messageLimit = .ok said)
    (hfound : conversationImages t messages = .ok found)
    (hprompt : summaryPrompt t said = .ok prompt) :
    heardWhile s t messages = [withImages prompt found] := by
  unfold heardWhile indexConversation
  rw [hsaid, hfound]
  show (((Attempt.ofMisfit (summaryPrompt t said) >>= fun prompt => _).run.run _).2.outside :
    List Value) = _
  rw [hprompt]
  -- The model is asked once; whether chunks can be made of its summary is not told to it.
  show ((((Attempt.ofExcept (conversationChunks s .historicalTicket t said .empty)) >>=
    fun chunks => indexed (willingStore _) chunks).run.run
      ⟨[withImages prompt found], _, _⟩).2.outside : List Value) = _
  rcases conversationChunks s .historicalTicket t said .empty with fault | chunks
  · rfl
  · rfl

/-- A document that shows one image. -/
def oneImage : Value :=
  .object [("type", .text "image"), ("attrs", .object [("src", .text "u")])]

theorem staffImage_reaches_model :
    ∃ (settings : Settings) (t : Ticket) (note : Message) (prompt : String),
      Settings.shape (.object []) = .valid settings ∧ note.isVisible = false ∧
      heardWhile settings t [note] = [.list [RichText.textPart prompt, RichText.imagePart (.text "u")]] ∧
      heardWhile settings t [] = [.text prompt] := by
  obtain ⟨settings, hsettings⟩ : ∃ settings, Settings.shape (.object []) = .valid settings := ⟨_, rfl⟩
  obtain ⟨t, prompt, hdescription, hprompt⟩ : ∃ (t : Ticket) (prompt : String),
      t.description = .null ∧ summaryPrompt t "" = .ok prompt :=
    ⟨⟨"T1", "", .null, none, none, .resolved, none, none, none, none⟩, _, rfl, rfl⟩
  have hshown : conversationImages t [staffNote oneImage] = .ok [.text "u"] := by
    rw [conversationImages_eq, hdescription]
    rfl
  have hnone : conversationImages t [] = .ok [] := by
    rw [conversationImages_eq, hdescription]
    rfl
  refine ⟨settings, t, staffNote oneImage, prompt, hsettings, rfl, ?_, ?_⟩
  · exact heardWhile_eq rfl hshown hprompt
  · exact heardWhile_eq rfl hnone hprompt

end Helpdesk.Knowledge
