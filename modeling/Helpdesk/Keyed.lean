/-!
# Helpdesk.Keyed — tables in the order of their first entries.

A table holds at most one entry under a name. Writing under a name that is there replaces the entry
and keeps its place, so the order of a table is the order in which names were first written.
-/
namespace Helpdesk

abbrev Keyed (α : Type) := List (String × α)

namespace Keyed

variable {α : Type}

/-- The entry under a name. -/
def get? (name : String) : Keyed α → Option α
  | [] => none
  | (k, a) :: rest => if k = name then some a else get? name rest

/-- Whether there is an entry under a name. -/
def has (name : String) (table : Keyed α) : Bool :=
  (get? name table).isSome

/-- Writes an entry under a name. -/
def put (name : String) (a : α) : Keyed α → Keyed α
  | [] => [(name, a)]
  | (k, b) :: rest => if k = name then (k, a) :: rest else (k, b) :: put name a rest

/-- The entries, in order. -/
def entries (table : Keyed α) : List α :=
  table.map Prod.snd

/-- The names, in order. -/
def names (table : Keyed α) : List String :=
  table.map Prod.fst

/-- A table of entries that know their names; the last entry of a name wins. -/
def ofList (name : α → String) (items : List α) : Keyed α :=
  items.foldl (fun table a => put (name a) a table) []

end Keyed

end Helpdesk
