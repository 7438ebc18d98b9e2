import Helpdesk.Knowledge.Restriction
import Helpdesk.Knowledge.Row

/-!
# Helpdesk.Knowledge.Collection — the table of rows, and programs that ask for it.

A collection keeps rows under their keys, in the order in which the keys were first written. It is
used by requests; each request happens at once or fails and changes nothing. Work that takes several
requests is a *program*: what it asks next may depend on what it was answered, and other programs
may get their requests in between.
-/
namespace Helpdesk.Knowledge

structure Collection where
  rows : List Row

/-- How far away a row is from a query. -/
abbrev Distance := String → Row → Float

namespace Collection

def empty : Collection := ⟨[]⟩

/-- The rows with some keys. -/
def withKeys (c : Collection) (keys : List String) : List Row :=
  c.rows.filter fun r => keys.contains r.key

/-- The rows that satisfy a restriction. -/
def satisfying (c : Collection) (r : Restriction) : List Row :=
  c.rows.filter fun row => r.holds row.metadata

/-- Puts a row in the place of the one with its key, or at the end. -/
def putRow (row : Row) : List Row → List Row
  | [] => [row]
  | r :: rest => if r.key = row.key then row :: rest else r :: putRow row rest

/-- Whether no key occurs twice. -/
def haveDistinctKeys : List Row → Bool
  | [] => true
  | r :: rest => !(rest.any fun s => s.key = r.key) && haveDistinctKeys rest

/-- Writes rows; nothing when one key occurs twice among them. -/
def upsert? (c : Collection) (rows : List Row) : Option Collection :=
  if haveDistinctKeys rows then some ⟨rows.foldl (fun rows row => putRow row rows) c.rows⟩ else none

/-- Replaces the metadata of some rows. -/
def update (c : Collection) (changes : List (String × Entries)) : Collection :=
  ⟨c.rows.map fun row =>
    match changes.lookup row.key with
    | some metadata => { row with metadata := metadata }
    | none => row⟩

/-- Removes the rows that satisfy a restriction. -/
def delete (c : Collection) (r : Restriction) : Collection :=
  ⟨c.rows.filter fun row => !r.holds row.metadata⟩

/-- The rows nearest to a query among those that satisfy a restriction. -/
def nearest (c : Collection) (distance : Distance) (query : String) (count : Nat)
    (restriction : Option Restriction) : List (Row × Float) :=
  let candidates := match restriction with
    | some r => c.satisfying r
    | none => c.rows
  let measured := candidates.map fun row => (row, distance query row)
  (measured.mergeSort fun a b => !decide (b.2 < a.2)).take count

end Collection

/-- What a collection can be asked for, by the kind of its answer. -/
inductive Request : Type → Type 1 where
  | count : Request Nat
  | getKeys (keys : List String) : Request (List Row)
  | getWhere (r : Restriction) : Request (List Row)
  | query (text : String) (limit : Nat) (r : Option Restriction) : Request (List (Row × Float))
  | upsert (rows : List Row) : Request Unit
  | update (changes : List (String × Entries)) : Request Unit
  | delete (r : Restriction) : Request Unit
  | heartbeat : Request Unit

/-- The kinds of request that may fail. -/
inductive RequestKind where
  | get | query | upsert | update | delete | heartbeat
  deriving DecidableEq

/-- The kind of a request; counting never fails. -/
def Request.kind? {α : Type} : Request α → Option RequestKind
  | .count => none
  | .getKeys _ => some .get
  | .getWhere _ => some .get
  | .query _ _ _ => some .query
  | .upsert _ => some .upsert
  | .update _ => some .update
  | .delete _ => some .delete
  | .heartbeat => some .heartbeat

/-- What a collection answers to a request that does not fail, and what it is afterwards. -/
def Request.answer? {α : Type} (distance : Distance) (c : Collection) :
    Request α → Option (α × Collection)
  | .count => some (c.rows.length, c)
  | .getKeys keys => some (c.withKeys keys, c)
  | .getWhere r => some (c.satisfying r, c)
  | .query text limit r => some (c.nearest distance text limit r, c)
  | .upsert rows => (c.upsert? rows).map fun c => ((), c)
  | .update changes => some ((), c.update changes)
  | .delete r => some ((), c.delete r)
  | .heartbeat => some ((), c)

/-- Work that asks a collection. A request that fails is answered by nothing. -/
inductive Program (α : Type) : Type 1 where
  | done (a : α)
  | ask {β : Type} (request : Request β) (next : Option β → Program α)

namespace Program

/-- A program after another one. -/
def andThen {α β : Type} : Program α → (α → Program β) → Program β
  | .done a, f => f a
  | .ask request next, f => .ask request fun answer => (next answer).andThen f

/-- A single request; `otherwise` stands for its answer when it fails. -/
def request {α β : Type} (r : Request β) (answered : β → α) (otherwise : α) : Program α :=
  .ask r fun
    | some b => .done (answered b)
    | none => .done otherwise

/-- Runs a program without anything in between, where `fails` says which requests fail. -/
def run {α : Type} (distance : Distance) (fails : RequestKind → Bool) :
    Program α → Collection → α × Collection
  | .done a, c => (a, c)
  | .ask r next, c =>
    if r.kind?.any fails then (next none).run distance fails c
    else
      match r.answer? distance c with
      | some (answer, c) => (next (some answer)).run distance fails c
      | none => (next none).run distance fails c

end Program

end Helpdesk.Knowledge
