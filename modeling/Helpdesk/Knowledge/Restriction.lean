import Helpdesk.Knowledge.Chunk

/-!
# Helpdesk.Knowledge.Restriction — which rows of a collection are meant.

A restriction speaks about the metadata of a row. The wire form is a record: equality as an entry,
everything else by operators.
-/
namespace Helpdesk.Knowledge

inductive Restriction where
  | is (name : String) (text : String)
  | oneOf (name : String) (texts : List String)
  | atLeast (name : String) (n : Int)
  | atMost (name : String) (n : Int)
  | all (parts : List Restriction)

namespace Restriction

/-- The entry of an integer. -/
def integer? (name : String) (metadata : Entries) : Option Int :=
  match Entries.value? name metadata with
  | some (.int n) => some n
  | _ => none

/-- The entry of a text. -/
def text? (name : String) (metadata : Entries) : Option String :=
  (Entries.value? name metadata).bind Value.text?

mutual

/-- Whether metadata satisfies a restriction. -/
def holds (metadata : Entries) : Restriction → Bool
  | is name text => text? name metadata == some text
  | oneOf name texts => (text? name metadata).any texts.contains
  | atLeast name n => (integer? name metadata).any fun m => decide (n ≤ m)
  | atMost name n => (integer? name metadata).any fun m => decide (m ≤ n)
  | all parts => holdAll metadata parts

/-- Whether metadata satisfies several restrictions. -/
def holdAll (metadata : Entries) : List Restriction → Bool
  | [] => true
  | r :: rest => holds metadata r && holdAll metadata rest

end

mutual

/-- The wire form of a restriction. -/
def toValue : Restriction → Value
  | is name text => .object [(name, .text text)]
  | oneOf name texts => .object [(name, .object [("$in", .ofTexts texts)])]
  | atLeast name n => .object [(name, .object [("$gte", .int n)])]
  | atMost name n => .object [(name, .object [("$lte", .int n)])]
  | all parts => .object [("$and", .list (toValues parts))]

/-- The wire forms of restrictions. -/
def toValues : List Restriction → List Value
  | [] => []
  | r :: rest => toValue r :: toValues rest

end

/-- Several restrictions as one; a single one stands for itself. -/
def both? : List Restriction → Option Restriction
  | [] => none
  | [r] => some r
  | parts => some (all parts)

/-- The rows of a source. -/
def source (sourceType sourceId : String) : Restriction :=
  all [is "source_type" sourceType, is "source_id" sourceId]

/-- The rows of a source whose numbers are at most so far away from a number. -/
def nearby (sourceType sourceId : String) (number window : Int) : Restriction :=
  all [is "source_type" sourceType, is "source_id" sourceId,
    atLeast "chunk_id" (max 0 (number - window)), atMost "chunk_id" (number + window)]

/-- The rows that a search filter lets pass; nothing when it lets all of them pass. -/
def ofFilter? (f : Option Filter) : Option Restriction :=
  f.bind fun f =>
    let types := f.sourceTypes.getD []
    let module := f.module.getD ""
    both? ((if types.isEmpty then [] else [oneOf "source_type" (types.map SourceType.name)]) ++
      (if module.isEmpty then [] else [is "module" module]))

end Restriction

end Helpdesk.Knowledge
