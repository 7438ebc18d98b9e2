import Helpdesk.Number
import Helpdesk.Text.Case
import Helpdesk.Text.Blank
import Helpdesk.Value.Literal

/-!
# Helpdesk.Template.Item — what prompt templates compute with.

Beside free-form values a template handles *absent* things (a name that is not bound, an entry that
is not there), ranges of integers, the pairs that a loop over an object runs through, the progress
of a loop, and the two patterns `empty` and `blank`. An absent thing is never an error: it prints as
nothing, counts as false, and reading a part of it is absent again.
-/
namespace Helpdesk.Template

/-- The progress of a loop, as the template sees it. -/
structure Progress where
  name : String
  length : Nat
  index : Nat
  /-- How many columns a table has, when the loop makes one. -/
  columns : Option Nat
  deriving DecidableEq

inductive Item where
  | absent
  | null
  | bool (b : Bool)
  | int (n : Int)
  | float (x : Float)
  | text (s : String)
  | list (items : List Item)
  /-- An entry of an object that is looped over. -/
  | pair (name : String) (value : Item)
  | object (entries : List (String × Item))
  /-- The integers from `first` up to `stop`, which is excluded. -/
  | range (first stop : Int)
  /-- The pattern of empty texts, lists and objects. -/
  | empty
  /-- The pattern of empty lists and objects and of texts of nothing but white space. -/
  | blank
  /-- The loops at work, innermost first. -/
  | loop (progress : Progress) (outer : List Progress)
  deriving Inhabited

namespace Item

mutual

/-- A value as an item. -/
def ofValue : Value → Item
  | .null => .null
  | .bool b => .bool b
  | .int n => .int n
  | .float x => .float x
  | .text s => .text s
  | .list items => .list (ofValues items)
  | .object entries => .object (ofEntries entries)

/-- Values as items. -/
def ofValues : List Value → List Item
  | [] => []
  | v :: rest => ofValue v :: ofValues rest

/-- Entries as items. -/
def ofEntries : List (String × Value) → List (String × Item)
  | [] => []
  | (k, v) :: rest => (k, ofValue v) :: ofEntries rest

end

/-- Whether an item counts as true: all but false, null and absent things do. -/
def counts : Item → Bool
  | .absent => false
  | .null => false
  | .bool b => b
  | _ => true

/-! ## Printing -/

/-- A range by its ends. -/
def rangeText (first stop : Int) : String :=
  decimal first ++ ".." ++ decimal (stop - 1)

mutual

/-- The literal of an item. -/
def literal : Item → String
  | .absent => "Undefined"
  | .null => "None"
  | .bool true => "True"
  | .bool false => "False"
  | .int n => decimal n
  | .float x => literalFloats.write x
  | .text s => Text.quoted s
  | .list items => "[" ++ Text.join ", " (literals items) ++ "]"
  | .pair k v => "(" ++ Text.quoted k ++ ", " ++ literal v ++ ")"
  | .object entries => "\x7b" ++ Text.join ", " (literalEntries entries) ++ "\x7d"
  | .range first stop => "range(" ++ decimal first ++ ", " ++ decimal stop ++ ")"
  | .empty => ""
  | .blank => ""
  | .loop progress _ => if progress.columns.isSome then "TableRow" else "ForLoop"

/-- The literals of several items. -/
def literals : List Item → List String
  | [] => []
  | a :: rest => literal a :: literals rest

/-- The entries of an object, each as `name: item`. -/
def literalEntries : List (String × Item) → List String
  | [] => []
  | (k, a) :: rest => (Text.quoted k ++ ": " ++ literal a) :: literalEntries rest

end

/-- An item inside other text: a text as it is, an absent thing as nothing, anything else as its
literal. -/
def plainText : Item → String
  | .text s => s
  | .absent => ""
  | a => a.literal

/-- What an item prints as. -/
def printed : Item → String
  | .null => ""
  | .bool b => if b then "true" else "false"
  | .list items => String.join (items.map plainText)
  | .range first stop => rangeText first stop
  | a => a.plainText

/-! ## Equality and order -/

/-- The number that an item is, booleans included. -/
def number? : Item → Option Number
  | .bool b => some (.int (if b then 1 else 0))
  | .int n => some (.int n)
  | .float x => some (.float x)
  | _ => none

/-- Whether an item fits the pattern of emptiness. -/
def isEmpty : Item → Bool
  | .empty => true
  | .text s => s.isEmpty
  | .list items => items.isEmpty
  | .object entries => entries.isEmpty
  | _ => false

/-- Whether an item fits the pattern of blankness. -/
def isBlank : Item → Bool
  | .blank => true
  | .text s => Text.isBlankText s
  | .list items => items.isEmpty
  | .object entries => entries.isEmpty
  | _ => false

mutual

/-- Equality by value; an absent thing equals null. -/
def equal : Item → Item → Bool
  | .empty, b => b.isEmpty
  | a, .empty => a.isEmpty
  | .blank, b => b.isBlank
  | a, .blank => a.isBlank
  | .absent, .absent => true
  | .absent, .null => true
  | .null, .absent => true
  | .null, .null => true
  | .text s, .text t => s == t
  | .list xs, .list ys => equalLists xs ys
  | .pair j a, .pair k b => j == k && equal a b
  | .object xs, .object ys => xs.length == ys.length && equalEntries xs ys
  | .range a b, .range c d => (a == c && b == d) || (b ≤ a && d ≤ c)
  | .loop p outer, .loop q other => p == q && outer == other
  | a, b => match a.number?, b.number? with
    | some m, some n => Number.equal m n
    | _, _ => false

/-- Equality item by item. -/
def equalLists : List Item → List Item → Bool
  | [], [] => true
  | a :: as, b :: bs => equal a b && equalLists as bs
  | _, _ => false

/-- Whether every entry has an equal one under its name. -/
def equalEntries : List (String × Item) → List (String × Item) → Bool
  | [], _ => true
  | (k, a) :: rest, other =>
    (match other.lookup k with
      | some b => equal a b
      | none => false) && equalEntries rest other

end

/-- Equality in a test, where a boolean equals booleans only. -/
def matchesInTest (a b : Item) : Bool :=
  match a, b with
  | .bool x, .bool y => x == y
  | .bool _, _ => false
  | _, .bool _ => false
  | a, b => a.equal b

/-- Order in a test: between texts and between numbers; booleans are never less. Other kinds have no
order. -/
def lessInTest? (a b : Item) : Option Bool :=
  match a, b with
  | .text s, .text t => some (decide (s < t))
  | .bool _, _ => some false
  | _, .bool _ => some false
  | a, b => do return Number.compare? (← a.number?) (← b.number?) == some .lt

/-- Order in a sorted list; nothing when the kinds have no order. -/
def lessInSort? (a b : Item) : Option Bool :=
  match a, b with
  | .text s, .text t => some (decide (s < t))
  | a, b => do return Number.compare? (← a.number?) (← b.number?) == some .lt

/-! ## Parts -/

/-- An item of a sequence at a position that may count from the end. -/
def at? (items : List Item) (position : Int) : Option Item :=
  let index := if position < 0 then position + items.length else position
  if index < 0 then none else items[index.toNat]?

/-- The integers of a range, as items. -/
def rangeItems (first stop : Int) : List Item :=
  (List.range (stop - first).toNat).map fun (i : Nat) => .int (first + i)

/-- The items of a sequence that is no text. -/
def items? : Item → Option (List Item)
  | .list items => some items
  | .pair k v => some [.text k, v]
  | .range first stop => some (rangeItems first stop)
  | _ => none

/-- How many items something has. -/
def size? : Item → Option Nat
  | .text s => some s.length
  | .object entries => some entries.length
  | .absent => some 0
  | a => a.items?.map List.length

/-- What a template may ask about the progress of every loop. -/
def countPart? (progress : Progress) (name : String) : Option Item :=
  match name with
  | "length" => some (.int progress.length)
  | "index" => some (.int (progress.index + 1))
  | "index0" => some (.int progress.index)
  | "rindex" => some (.int (progress.length - progress.index))
  | "rindex0" => some (.int (progress.length - progress.index - 1))
  | "first" => some (.bool (progress.index == 0))
  | "last" => some (.bool (progress.index + 1 == progress.length))
  | _ => none

/-- What a template may ask about a place in a table with so many columns. -/
def placePart? (index columns : Nat) (name : String) : Option Item :=
  let column := index % columns
  match name with
  | "col" => some (.int (column + 1))
  | "col0" => some (.int column)
  | "col_first" => some (.bool (column == 0))
  | "col_last" => some (.bool (column + 1 == columns))
  | "row" => some (.int (index / columns + 1))
  | _ => none

/-- What a template may ask about a loop inside others. -/
def nestingPart? (progress : Progress) (outer : List Progress) (name : String) : Option Item :=
  match name, outer with
  | "name", _ => some (.text progress.name)
  | "parentloop", [] => some .absent
  | "parentloop", p :: rest => some (.loop p rest)
  | _, _ => none

/-- What a template may ask about the progress of a loop. -/
def progressPart? (progress : Progress) (outer : List Progress) (name : String) : Option Item :=
  (countPart? progress name).or (match progress.columns with
    | some columns => placePart? progress.index columns name
    | none => nestingPart? progress outer name)

/-- The part of an item under a name. An entry of an object comes before its size. -/
def named? (a : Item) (name : String) : Option Item :=
  match a with
  | .object entries =>
    match entries.lookup name with
    | some v => some v
    | none =>
      if name = "size" then some (.int entries.length)
      else if name = "first" then entries.head?.map fun (k, v) => .pair k v
      else none
  | .loop progress outer => progressPart? progress outer name
  | .text s => if name = "size" then some (.int s.length) else none
  | a =>
    match a.items? with
    | none => none
    | some items =>
      if name = "size" then some (.int items.length)
      else if name = "first" then items.head?
      else if name = "last" then items.getLast?
      else none

/-- The part of an item under a name or a position, absent when there is none. -/
def part (a key : Item) : Item :=
  (match key with
    | .text name => a.named? name
    | .int n => a.items?.bind fun items => at? items n
    | .bool b => a.items?.bind fun items => at? items (if b then 1 else 0)
    | _ => none).getD .absent

end Item

end Helpdesk.Template
