import Helpdesk.Knowledge.Backend
import Helpdesk.Knowledge.Indexing
import Helpdesk.Text.Line

/-!
# Helpdesk.Ingestion — filling the knowledge base from a folder.

A folder holds documents and lists of questions with answers. Each document is a source, named for
its file and titled by its first heading, and so is each question. A knowledge base that is not
empty is only filled after the operator has agreed to empty it first. What the operator reads on the
way is part of the result, also when something goes wrong half-way.
-/
namespace Helpdesk.Ingestion

open Knowledge

/-! ## Folders -/

/-- A file of a folder, with its line breaks unified. -/
structure File where
  name : String
  text : String

/-- The files of a subfolder whose names end in some way, in the order of their names, from texts
under paths. -/
def filesIn (subfolder ending : String) (texts : List (String × String)) : List File :=
  let files := texts.filterMap fun (path, text) =>
    match Text.stripWord (subfolder ++ "/").toList path.toList with
    | some name =>
      if name.contains '/' || !ending.toList.isSuffixOf name then none
      else some ⟨String.ofList name, String.ofList (Text.unifyBreaks text.toList)⟩
    | none => none
  files.mergeSort fun a b => !decide (b.name < a.name)

/-- The name of a file without its ending; a name that is nothing but an ending stands for itself. -/
def File.stem (f : File) : String :=
  let cs := f.name.toList
  let before := (cs.reverse.dropWhile (· != '.')).tail.reverse
  if before.isEmpty then f.name else String.ofList before

/-! ## Work -/

/-- A store that is filled. -/
structure Shelf (σ : Type) where
  store : Store σ
  /-- How many chunks are there, for a store that can be emptied. -/
  count : Option (StateM σ Nat)
  /-- Removes all chunks. -/
  reset : StateM σ Unit

structure Session (σ : Type) where
  world : World σ
  /-- The lines that the operator read. -/
  printed : List String
  /-- The questions that the operator answered. -/
  prompts : List String

/-- Work that the operator watches. -/
abbrev Ingest (σ α : Type) := ExceptT Fault (StateM (Session σ)) α

namespace Ingest

variable {σ α : Type}

/-- Prints lines. -/
def print (lines : List String) : Ingest σ Unit :=
  modify fun s => { s with printed := s.printed ++ lines }

/-- A result that may be a failure. -/
def ofExcept (result : Except Fault α) : Ingest σ α :=
  ExceptT.mk (pure result)

/-- An attempt on the world. -/
def ofAttempt (attempt : Attempt σ α) : Ingest σ α := do
  let s ← get
  let (result, world) := attempt.run.run s.world
  set { s with world := world }
  ofExcept result

end Ingest

variable {σ : Type}

/-! ## Documents -/

/-- The title of a document: its first heading, or the name of its file. -/
def titleOf (f : File) : String :=
  match (Text.lines f.text).find? (·.startsWith "#") with
  | some heading =>
    Text.trim (String.ofList (heading.toList.dropWhile fun c => c == '#' || c == ' '))
  | none => f.stem

/-- A file as a document. -/
def documentOf (f : File) : Document :=
  ⟨.text ("doc:" ++ f.stem), .text (titleOf f), f.text,
    [("file", .text f.name), ("doc_type", .text "document")]⟩

/-- Writes a file; how many chunks were written. -/
def ingestDocument (store : Store σ) (s : Settings) (f : File) : Ingest σ Nat := do
  Ingest.print ["Ingesting " ++ f.name ++ "..."]
  let chunks ← Ingest.ofAttempt (indexDocument store s (documentOf f))
  Ingest.print ["  Added " ++ decimal chunks.length ++ " chunks from " ++ f.name]
  return chunks.length

/-! ## Questions -/

/-- An entry of a question; it has to be there. -/
def entry (name : String) (question : Entries) : Except Misfit Value :=
  match Entries.value? name question with
  | some v => .ok v
  | none => .error (.missingEntry name)

/-- The metadata of a question. -/
def questionMetadata (f : File) (module : Value) (question : Entries) : Entries :=
  [("file", .text f.name), ("doc_type", .text "faq"),
    ("keywords", (Entries.value? "keywords" question).getD (.list []))] ++
    (if module.counts then [("module", module)] else [])

/-- A question with its answer as a document. -/
def questionDocument (f : File) (module : Value) : Value → Except Misfit Document
  | .object question => do
    let id ← entry "id" question
    let asked ← entry "question" question
    let answered ← entry "answer" question
    return ⟨.text ("faq:" ++ id.plainText), asked,
      "Q: " ++ asked.plainText ++ "\n\nA: " ++ answered.plainText,
      questionMetadata f module question⟩
  | v => .error (.noMember v.kind "get")

/-- Writes a question; how many chunks were written. -/
def ingestQuestion (store : Store σ) (s : Settings) (f : File) (module question : Value) :
    Ingest σ Nat := do
  let document ← Ingest.ofExcept (Fault.ofMisfit (questionDocument f module question))
  return (← Ingest.ofAttempt (indexDocument store s document)).length

/-- The module and the questions of a file. -/
def questionsOf (f : File) : Except Fault (Value × List Value) := do
  match Json.read f.text with
  | .error e => throw (.ofReadError e)
  | .ok (.object members) =>
    let module := (Entries.value? "module" members).getD .null
    let questions := (Entries.value? "faqs" members).getD (.list [])
    return (module, ← Fault.ofMisfit questions.elements)
  | .ok v => throw (.misfit (.noMember v.kind "get"))

/-- Writes the questions of a file; how many chunks were written. -/
def ingestQuestions (store : Store σ) (s : Settings) (f : File) : Ingest σ Nat := do
  Ingest.print ["Ingesting " ++ f.name ++ "..."]
  let (module, questions) ← Ingest.ofExcept (questionsOf f)
  let counts ← questions.mapM fun question => ingestQuestion store s f module question
  Ingest.print ["  Added " ++ decimal questions.length ++ " FAQs from " ++ f.name]
  return counts.foldl (· + ·) 0

/-! ## The whole folder -/

/-- A line across the page. -/
def rule : String := Text.repeated "=" 50

/-- A text between two lines. -/
def banner (text : String) : List String :=
  [rule, text, rule]

/-- Asks the operator whether a shelf that is not empty may be emptied, and empties it. -/
def clearFor (shelf : Shelf σ) (answer : String) : Ingest σ Bool := do
  match shelf.count with
  | none => return true
  | some count =>
    let present ← Ingest.ofAttempt (Attempt.sure (Work.observe count))
    if present = 0 then return true
    modify fun s => { s with prompts := s.prompts ++ ["\nVector store already contains " ++
      decimal present ++ " chunks. Reset and re-ingest? (y/n): "] }
    if Text.lower answer = "y" then
      Ingest.print ["Resetting vector store..."]
      Ingest.ofAttempt (Attempt.sure (Work.observe shelf.reset))
      return true
    else
      Ingest.print ["Aborting ingestion."]
      return false

/-- Writes all files of a folder. -/
def ingestAll (store : Store σ) (s : Settings) (texts : List (String × String)) :
    Ingest σ Unit := do
  Ingest.print ["", "1. Ingesting documents..."]
  let ofDocuments ← (filesIn "docs" ".md" texts).mapM (ingestDocument store s)
  Ingest.print ["", "2. Ingesting FAQs..."]
  let ofQuestions ← (filesIn "faqs" ".json" texts).mapM (ingestQuestions store s)
  let written : Nat := (ofDocuments ++ ofQuestions).foldl (· + ·) 0
  Ingest.print ("" :: banner ("Ingestion complete! Chunks written: " ++ decimal written))

/-- Fills the knowledge base that the settings ask for from texts under paths, where `answer` is what
the operator answers. -/
def ingest (shelfOf : Backend → Shelf σ) (s : Settings) (answer : String)
    (texts : List (String × String)) : Ingest σ Unit := do
  Ingest.print (banner "Knowledge Base Ingestion")
  let shelf := shelfOf (← Ingest.ofExcept (Backend.ofSettings s))
  if ← clearFor shelf answer then ingestAll shelf.store s texts

/-- The shelf over a collection, where `fails` says which requests fail. -/
def shelfOfCollection (distance : Distance) (fails : RequestKind → Bool) : Shelf Collection where
  store := .ofCollection distance fails
  count := some fun c => (c.rows.length, c)
  reset := set Collection.empty

end Helpdesk.Ingestion
