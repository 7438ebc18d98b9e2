import Helpdesk.Template.Filter.Calendar
import Helpdesk.Template.Node

/-!
# Helpdesk.Template.Rendering — from a template to text.

Rendering runs through the nodes with the names that are bound so far. A block that can print
nothing but white space prints nothing at all, though its assignments take place. A failing filter
or comparison, another template and a `break` outside every loop stop the rendering for good.
-/
namespace Helpdesk.Template

/-- What is bound while a template is rendered. -/
structure Scope where
  /-- The variables that the template is given. -/
  given : Entries
  /-- What the template has assigned. -/
  assigned : List (String × Item)
  /-- The variables of the loops at work, innermost first. -/
  looped : List (String × Item)
  counters : List (String × Int)
  cycles : List (String × Nat)
  /-- How far each loop has got, for loops that are resumed. -/
  reached : List (String × Nat)
  /-- What the blocks that print changes printed last. -/
  printedLast : String
  progress : List Progress

namespace Scope

/-- The scope of a fresh rendering. -/
def ofEntries (given : Entries) : Scope :=
  ⟨given, [], [], [], [], [], "", []⟩

/-- What a name is bound to. -/
def value (scope : Scope) (name : String) : Item :=
  match scope.looped.lookup name with
  | some a => a
  | none =>
    match scope.assigned.lookup name with
    | some a => a
    | none =>
      match Entries.value? name scope.given with
      | some v => .ofValue v
      | none => ((scope.counters.lookup name).map Item.int).getD .absent

/-- An integer where a range or a limit asks for one. -/
def whole (a : Item) : Int :=
  (Filter.integer? a).getD 0

mutual

/-- The item that an operand stands for. -/
def evaluate (scope : Scope) : Operand → Item
  | .null => .null
  | .bool b => .bool b
  | .int n => .int n
  | .float x => .float x
  | .text s => .text s
  | .empty => .empty
  | .blank => .blank
  | .path root steps =>
    let bound := match root with
      | .named name => scope.value name
      | .position _ => .absent
      | .computed path => match evaluate scope path with
        | .text name => scope.value name
        | _ => .absent
    follow scope bound steps
  | .range first last =>
    let low := whole (evaluate scope first)
    let high := whole (evaluate scope last)
    if high < low then .range 0 0 else .range low (high + 1)

/-- The item at the end of some steps. -/
def follow (scope : Scope) (a : Item) : List Step → Item
  | [] => a
  | .named name :: rest => follow scope (a.part (.text name)) rest
  | .position n :: rest => follow scope (a.part (.int n)) rest
  | .computed path :: rest => follow scope (a.part (evaluate scope path)) rest

end

/-- The arguments of a filter call, by place and by name. -/
def arguments (scope : Scope) : List Argument → List Item × List (String × Item)
  | [] => ([], [])
  | argument :: rest =>
    let (placed, named) := arguments scope rest
    let a := scope.evaluate argument.operand
    match argument.name with
    | none => (a :: placed, named)
    | some name => (placed, (name, a) :: named)

/-- Sends an item through filters. -/
def pipe? (scope : Scope) (a : Item) : List FilterCall → Option Item
  | [] => some a
  | call :: rest => do
    let filter ← Filter.all.find? fun f => f.name == call.filter
    let (placed, named) := scope.arguments call.arguments
    pipe? scope (← filter.call? a placed named) rest

/-- The item that comes out of a pipeline. -/
def run? (scope : Scope) (p : Pipeline) : Option Item :=
  scope.pipe? (scope.evaluate p.operand) p.filters

/-- Whether a container holds an item. -/
def contains? (a b : Item) : Option Bool :=
  match a with
  | .text s => some (Text.occursIn b.plainText.toList s.toList)
  | .object entries =>
    match b with
    | .text name => some (entries.lookup name).isSome
    | _ => some false
  | .absent => some false
  | a => a.items?.map fun items => items.any (b.equal ·)

/-- Compares two items. -/
def relate? (relation : Relation) (a b : Item) : Option Bool :=
  match relation with
  | .equal => some (a.matchesInTest b)
  | .unequal => some !(a.matchesInTest b)
  | .less => a.lessInTest? b
  | .greater => b.lessInTest? a
  | .lessEqual => if a.matchesInTest b then some true else a.lessInTest? b
  | .greaterEqual => if a.matchesInTest b then some true else b.lessInTest? a
  | .contains => contains? a b

/-- The outcome of a test, as an item. -/
def test? (scope : Scope) : Test → Option Item
  | .operand a => some (scope.evaluate a)
  | .compare relation left right => do
    return .bool (← relate? relation (← test? scope left) (← test? scope right))
  | .all left right => do
    if (← test? scope left).counts then return .bool (← test? scope right).counts
    else return .bool false
  | .any left right => do
    if (← test? scope left).counts then return .bool true
    else return .bool (← test? scope right).counts

end Scope

/-- How the rendering of nodes ended. -/
inductive Ending where
  | done | leaves | goesOn
  deriving DecidableEq

/-- What a rendering came to: its text, its end and what is bound after it. -/
structure Rendered where
  text : String
  ending : Ending
  scope : Scope

namespace Rendered

/-- Text that was printed by a node that went through. -/
def ofText (scope : Scope) (s : String) : Rendered :=
  ⟨s, .done, scope⟩

end Rendered

/-- The items that a loop runs through. -/
def loopItems : Item → List Item
  | .text s => if s.isEmpty then [] else [.text s]
  | .object entries => entries.map fun (k, v) => .pair k v
  | a => a.items?.getD []

/-- An integer setting of a loop that may be left out. -/
def setting? (scope : Scope) : Option Operand → Option (Option Nat)
  | none => some none
  | some a =>
    match scope.evaluate a with
    | .absent => some none
    | .null => some none
    | item => (Filter.integer? item).map fun n => some n.toNat

/-- The items that a loop runs through once its settings are applied, and the scope that remembers
how far it gets. -/
def selectItems? (scope : Scope) (head : LoopHead) : Option (List Item × Scope) := do
  let all := loopItems (scope.evaluate head.source)
  let limit ← setting? scope head.limit
  let offset ← match head.offset with
    | none => some 0
    | some .resume => some ((scope.reached.lookup head.name).getD 0)
    | some (.at a) => (setting? scope (some a)).map fun n => n.getD 0
  let rest := all.drop offset
  let kept := match limit with
    | none => rest
    | some n => rest.take n
  let reached := (head.name, offset + kept.length) :: scope.reached
  return (if head.reversed then kept.reverse else kept, { scope with reached })

/-- Binds the variable of a loop for one turn. -/
def Scope.enter (scope : Scope) (bound : String) (a : Item) (progress : Progress)
    (outer : List Progress) : Scope :=
  { scope with
    looped := (bound, a) :: ("forloop", .loop progress outer) :: scope.looped
    progress := progress :: outer }

/-- Binds the variable of a table for one cell; a table is no loop that others can be inside. -/
def Scope.enterCell (scope : Scope) (bound : String) (a : Item) (progress : Progress) : Scope :=
  { scope with looped := (bound, a) :: ("tablerowloop", .loop progress []) :: scope.looped }

/-- Takes what was bound for one turn of a loop away. -/
def Scope.exit (scope outer : Scope) : Scope :=
  { scope with looped := outer.looped, progress := outer.progress }

/-- Runs through the items of a loop until one leaves it. -/
def overItems (turn : Nat → Item → Scope → Option Rendered) :
    Nat → List Item → Scope → Option (String × Scope)
  | _, [], scope => some ("", scope)
  | index, a :: rest, scope => do
    let rendered ← turn index a scope
    let scope := rendered.scope.exit scope
    if rendered.ending = .leaves then return (rendered.text, scope)
    else
      let (text, scope) ← overItems turn (index + 1) rest scope
      return (rendered.text ++ text, scope)

/-- What stands after the cell of a table: the start of the next row behind the last column. -/
def afterCell (columns length index : Nat) : String :=
  if (index + 1) % columns = 0 ∧ index + 1 < length then
    "</td></tr>\n<tr class=\"row" ++ toString ((index + 1) / columns + 1) ++ "\">"
  else "</td>"

/-- What a block came to: a blank one prints nothing. -/
def asBlock (body : List Node) (rendered : Rendered) : Rendered :=
  if Node.allBlank body then { rendered with text := "" } else rendered

mutual

/-- Renders nodes one after another until one ends the turn of a loop. -/
def renderNodes : List Node → Scope → Option Rendered
  | [], scope => some (.ofText scope "")
  | n :: rest, scope => do
    let first ← renderNode n scope
    if first.ending = .done then
      let more ← renderNodes rest first.scope
      return { more with text := first.text ++ more.text }
    else return first

/-- Renders a node. -/
def renderNode : Node → Scope → Option Rendered
  | .text s, scope => some (.ofText scope s)
  | .output p, scope => do
    let a ← scope.run? p
    return .ofText scope a.printed
  | .assign name p, scope => do
    let a ← scope.run? p
    return .ofText { scope with assigned := (name, a) :: scope.assigned } ""
  | .capture name body, scope => do
    let rendered ← (renderNodes body scope).map (asBlock body)
    if rendered.ending = .done then
      let assigned := (name, Item.text rendered.text) :: rendered.scope.assigned
      return .ofText { rendered.scope with assigned } ""
    else return { rendered with text := "" }
  | .choose branches otherwise, scope => do
    match ← renderChoice branches scope with
    | some rendered => return rendered
    | none => (renderNodes otherwise scope).map (asBlock otherwise)
  | .select subject arms, scope => renderArms (scope.evaluate subject) true arms scope
  | .loop head body otherwise, scope => do
    let (items, scope) ← selectItems? scope head
    if items.isEmpty then (renderNodes otherwise scope).map (asBlock otherwise)
    else
      let outer := scope.progress
      let (text, scope) ← overItems (fun index a scope =>
        (renderNodes body
          (scope.enter head.bound a ⟨head.name, items.length, index, none⟩ outer)).map
          (asBlock body))
        0 items scope
      return .ofText scope text
  | .table head body, scope => do
    let (items, scope) ← selectItems? scope head
    let columns ← setting? scope head.columns
    let columns := max 1 (columns.getD items.length)
    let (text, scope) ← overItems (fun index a scope => do
      let rendered ← (renderNodes body (scope.enterCell head.bound a
        ⟨head.name, items.length, index, some columns⟩)).map (asBlock body)
      let start := "<td class=\"col" ++ toString (index % columns + 1) ++ "\">"
      return { rendered with
        text := start ++ rendered.text ++ afterCell columns items.length index })
      0 items scope
    return .ofText scope ("<tr class=\"row1\">\n" ++ text ++ "</tr>\n")
  | .cycle group items, scope =>
    let values := items.map scope.evaluate
    let key := match group with
      | some g => "group " ++ (scope.evaluate g).literal
      | none => "items " ++ Text.join ", " (values.map Item.literal)
    let index := (scope.cycles.lookup key).getD 0
    let a := (values[index % max 1 values.length]?).getD .absent
    some (.ofText { scope with cycles := (key, index + 1) :: scope.cycles } a.printed)
  | .count name up, scope =>
    let old := (scope.counters.lookup name).getD 0
    let new := if up then old + 1 else old - 1
    let scope := { scope with counters := (name, new) :: scope.counters }
    some (.ofText scope (decimal (if up then old else new)))
  | .changed body, scope => do
    let rendered ← (renderNodes body scope).map (asBlock body)
    if rendered.ending = .done then
      if rendered.text = rendered.scope.printedLast then return { rendered with text := "" }
      else return { rendered with scope := { rendered.scope with printedLast := rendered.text } }
    else return { rendered with text := "" }
  | .leave, scope => some ⟨"", .leaves, scope⟩
  | .next, scope => some ⟨"", .goesOn, scope⟩
  | .elsewhere, _ => none

/-- Renders the first branch whose test comes out as wanted, if there is one. -/
def renderChoice : List (Bool × Test × List Node) → Scope → Option (Option Rendered)
  | [], _ => some none
  | (wanted, test, body) :: rest, scope => do
    let outcome ← scope.test? test
    if outcome.counts = wanted then return some (asBlock body (← renderNodes body scope))
    else renderChoice rest scope

/-- Renders every arm that lists the subject; `none` tells that no arm has done so yet. -/
def renderArms (subject : Item) (noneYet : Bool) :
    List (Option (List Operand) × List Node) → Scope → Option Rendered
  | [], scope => some (.ofText scope "")
  | (candidates, body) :: rest, scope => do
    let listed := match candidates with
      | some items => items.any fun a => subject.matchesInTest (scope.evaluate a)
      | none => noneYet
    if listed then
      let first ← (renderNodes body scope).map (asBlock body)
      if first.ending = .done then
        let stillNone := noneYet && candidates.isNone
        let more ← renderArms subject stillNone rest first.scope
        return { more with text := first.text ++ more.text }
      else return first
    else renderArms subject noneYet rest scope

end

end Helpdesk.Template
