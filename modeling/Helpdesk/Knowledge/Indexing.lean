import Helpdesk.Knowledge.Passage
import Helpdesk.Knowledge.Store
import Helpdesk.Knowledge.Transcript
import Helpdesk.Model.Call

/-!
# Helpdesk.Knowledge.Indexing — conversations and documents as chunks.

A conversation is indexed as a summary, which is its chunk number 0, and as the passages of its
transcript from number 1 on. A model writes the summary; without one the title of the ticket stands
for it. A document is indexed as its passages, from number 1 on, and has no summary.
-/
namespace Helpdesk.Knowledge

variable {σ : Type}

/-! ## Summaries -/

/-- Characters of a ticket title that are indexed. -/
def titleMax : Int := 500

/-- Characters of a ticket description that are indexed. -/
def descriptionMax : Int := 2000

/-- What the model is told to do. -/
def summaryInstructions : List String := [
  "请阅读以下客服工单的基本信息与按时间排序的对话，仅基于这些已知事实生成摘要。",
  "1) problem_summary：用中文精准概括用户问题，不引入未出现的推断。",
  "2) solution_steps：依据客服/技术在对话中明确给出的处理方案整理，按顺序给出。",
  "3) generated_queries：用于检索知识库的高精度检索词，优先包含模块名、错误码与关键操作。",
  "4) tags：3-8 个高置信标签。",
  "5) 信息不足时对应字段留空，绝不臆测。"]

/-- The title of a ticket as it is indexed. -/
def indexedTitle (t : Ticket) : String :=
  truncate titleMax t.title

/-- The description of a ticket as it is indexed. -/
def indexedDescription (t : Ticket) : Except Misfit String := do
  return truncate descriptionMax (← RichText.textWithImages t.description)

/-- What the model is told about a conversation. -/
def summaryPrompt (t : Ticket) (transcript : String) : Except Misfit String := do
  let description ← indexedDescription t
  return Text.join "\n" (summaryInstructions ++ [
    "",
    "工单信息：",
    "- 标题: " ++ indexedTitle t,
    "- 描述: " ++ description,
    "- 分类: " ++ t.category.getD "",
    "- 模块: " ++ t.module.getD "",
    "",
    "对话记录（按时间排序）：",
    transcript])

/-- A prompt with all images of a conversation. -/
def withImages (prompt : String) (images : List Value) : Value :=
  if images.isEmpty then .text prompt
  else .list (RichText.textPart prompt :: images.map RichText.imagePart)

/-- The images of a ticket and its messages. -/
def conversationImages (t : Ticket) (messages : List Message) : Except Misfit (List Value) := do
  let ofTicket ← RichText.images t.description
  let ofMessages ← messages.mapM fun m => RichText.images m.content
  return ofTicket ++ ofMessages.flatten

/-- Has a model sum up a conversation; an empty summary when it does not. -/
def summarize (p : Model.Provider σ) (s : Settings) (t : Ticket) (content : Value) :
    Work σ Decision.Summary := do
  let spec := Model.Spec.deciding s (some ⟨none, none, some s.summaryModel⟩)
  match ← Model.decide p spec .summary [⟨.human, content⟩] with
  | .ok summary => return summary
  | .error fault =>
    Work.note (.warning "kb_summary_failed" [("ticket_id", .text t.id),
      ("error", .text fault.message)])
    return .empty

/-! ## Chunks -/

/-- A list under a heading, when there is something in it. -/
def listed (heading separator : String) (items : List String) : List String :=
  if items.isEmpty then [] else [heading ++ Text.join separator items]

/-- The text of a summary. -/
def summaryText (t : Ticket) (d : Decision.Summary) : Except Misfit String := do
  let description ← indexedDescription t
  let problem := if d.problem.isEmpty then indexedTitle t else d.problem
  return Text.join "\n" (["问题: " ++ problem] ++
    listed "解决步骤:\n- " "\n- " d.steps ++
    listed "搜索关键词: " ", " d.queries ++
    listed "标签: " ", " d.tags ++ [
    "",
    "原始工单信息:",
    "- 标题: " ++ indexedTitle t,
    "- 描述: " ++ description,
    "- 模块: " ++ t.module.getD "",
    "- 分类: " ++ t.category.getD "",
    "- 区域: " ++ t.area.getD ""])

/-- The metadata of every chunk of a conversation. -/
def conversationMetadata (t : Ticket) (d : Decision.Summary) : Entries :=
  [("ticket_id", .text t.id), ("module", .ofText? t.module), ("area", .ofText? t.area),
    ("category", .ofText? t.category)] ++ d.toEntries

/-- The mark that tells a summary from what it sums up. -/
def summaryMark (isSummary : Bool) (metadata : Entries) : Entries :=
  Entries.put "is_summary" (.bool isSummary) metadata

/-- Numbers items from `number` on. -/
def numbered {α : Type} (number : Nat) : List α → List (Nat × α)
  | [] => []
  | a :: rest => (number, a) :: numbered (number + 1) rest

/-- The passages of a text. -/
def passagesOf (s : Settings) (text : String) : Except Fault (List String) :=
  (passages? text s.chunkMaxChars).elim (.error .emptyPieces) .ok

/-- The chunks of a conversation. -/
def conversationChunks (s : Settings) (source : SourceType) (t : Ticket) (transcript : String)
    (d : Decision.Summary) : Except Fault (List Chunk) := do
  let metadata := conversationMetadata t d
  let title := indexedTitle t
  let summary : Chunk :=
    ⟨source, t.id, 0, some title, ← Fault.ofMisfit (summaryText t d), summaryMark true metadata⟩
  let passages ← passagesOf s transcript
  return summary :: (numbered 1 passages).map fun (number, passage) =>
    ⟨source, t.id, number, some (title ++ "（对话）"), passage, summaryMark false metadata⟩

/-- Writes chunks, and returns them. -/
def indexed (store : Store σ) (chunks : List Chunk) : Attempt σ (List Chunk) := do
  Attempt.ask (store.upsert chunks)
  return chunks

/-- Indexes a conversation. -/
def indexConversation (p : Model.Provider σ) (store : Store σ) (s : Settings) (source : SourceType)
    (t : Ticket) (messages : List Message) : Attempt σ (List Chunk) := do
  let transcript ← Attempt.ofMisfit (transcript messages t.customerId messageLimit)
  let images ← Attempt.ofMisfit (conversationImages t messages)
  let prompt ← Attempt.ofMisfit (summaryPrompt t transcript)
  let summary ← Attempt.sure (summarize p s t (withImages prompt images))
  indexed store (← Attempt.ofExcept (conversationChunks s source t transcript summary))

/-! ## Documents -/

/-- A document that is to be indexed, as it was found. -/
structure Document where
  sourceId : Value
  title : Value
  text : String
  metadata : Entries

/-- A passage of a document; the identifier has to be text, and the title text or null. -/
def Document.chunk (d : Document) (number : Nat) (passage : String) : Except Fault Chunk :=
  Fault.ofChecked "KBChunk" ((fun sourceId title =>
      (⟨.generalKnowledge, sourceId, number, title, passage,
        summaryMark false d.metadata⟩ : Chunk))
    <$> (Shape.text d.sourceId).within "source_id"
    <*> (Shape.orNull Shape.text d.title).within "title")

/-- The chunks of a document. -/
def Document.chunks (s : Settings) (d : Document) : Except Fault (List Chunk) := do
  (numbered 1 (← passagesOf s d.text)).mapM fun (number, passage) => d.chunk number passage

/-- Indexes a document. -/
def indexDocument (store : Store σ) (s : Settings) (d : Document) : Attempt σ (List Chunk) := do
  indexed store (← Attempt.ofExcept (d.chunks s))

end Helpdesk.Knowledge
