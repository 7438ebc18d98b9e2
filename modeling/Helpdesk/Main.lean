import Helpdesk.Ingestion

/-!
# Helpdesk.Main — the command that fills a knowledge base.

The command reads a record with the texts of a folder under their paths, and the operator's answer,
and prints what the operator reads. The knowledge base is a fresh collection.
-/
namespace Helpdesk

/-- The texts of a folder in a record. -/
def folderTexts (v : Value) : List (String × String) :=
  (((v.field "files").entries?).getD []).filterMap fun (path, text) =>
    text.text?.map fun s => (path, s)

/-- What the operator reads when a folder is ingested. -/
def ingestionReport (settings : Settings) (v : Value) : List String :=
  let shelf := Ingestion.shelfOfCollection (fun _ _ => 1.0) (fun _ => false)
  let answer := ((v.field "answer").text?).getD "n"
  let (result, session) :=
    (Ingestion.ingest (fun _ => shelf) settings answer (folderTexts v)).run.run
      ⟨⟨.empty, [], []⟩, [], []⟩
  match result with
  | .ok _ => session.printed
  | .error fault => session.printed ++ [fault.text]

/-- The report for a text in JSON with the settings and the folder. -/
def reportFor (text : String) : List String :=
  match Json.read text with
  | .error _ => ["The input is no record."]
  | .ok v =>
    match Settings.read [] (((v.field "settings").entries?).getD []) with
    | .valid settings => ingestionReport settings v
    | .invalid issues => issues.map Issue.text

end Helpdesk

def main : IO Unit := do
  let text ← (← IO.getStdin).getLine
  for line in Helpdesk.reportFor text do
    IO.println line
