import Helpdesk.Template.Filter.Arithmetic

/-!
# Helpdesk.Template.Filter.Sequence — filters on lists.

A filter on lists takes lists inside lists apart first. Anything that is no list is a list of
itself, and an absent thing an empty one. An entry that an object of the list lacks is absent.
-/
namespace Helpdesk.Template.Filter

mutual

/-- The items of a list with inner lists taken apart. -/
def flattened : List Item → List Item
  | [] => []
  | a :: rest => flattenedItem a ++ flattened rest

/-- One item of a list taken apart. -/
def flattenedItem : Item → List Item
  | .list items => flattened items
  | .pair k v => .text k :: flattenedItem v
  | .range first stop => Item.rangeItems first stop
  | a => [a]

end

/-- The items that a filter on lists works on. -/
def itemsOf : Item → List Item
  | .absent => []
  | a => flattenedItem a

/-- The entry of an item of a list under a name: `fallback` when there is none, and nothing at all for
items that have no parts. -/
def entryOf? (fallback : Item) (name a : Item) : Option Item :=
  match a, name with
  | .object entries, .text k => some ((entries.lookup k).getD fallback)
  | .object _, _ => some fallback
  | .list items, .int n => some ((Item.at? items n).getD fallback)
  | .list _, _ => some fallback
  | .text _, _ => some fallback
  | .absent, _ => some fallback
  | _, _ => none

/-- A filter on the items of a list. -/
def onItems (name : String) (f : List Item → Item) : Filter :=
  plain name fun a => f (itemsOf a)

/-- The items with later repetitions left out. -/
def withoutRepeats (key : Item → Item) : List Item → List Item → List Item
  | _, [] => []
  | seen, a :: rest =>
    if seen.any (Item.equal (key a) ·) then withoutRepeats key seen rest
    else a :: withoutRepeats key (key a :: seen) rest

/-- Whether all keys of a list can be ordered with one another. -/
def sortable : List Item → Bool
  | [] => true
  | [_] => true
  | keys => keys.all fun a => (Item.lessInSort? (keys.headD .absent) a).isSome

/-- Sorts items by their keys, items without a key last. -/
def sortByKey? (keyed : List (Option Item × Item)) : Option Item :=
  if sortable (keyed.filterMap Prod.fst) then
    let notAfter := fun (a b : Option Item × Item) => match a.1, b.1 with
      | some x, some y => !(Item.lessInSort? y x).getD false
      | none, some _ => false
      | _, none => true
    some (.list ((keyed.mergeSort notAfter).map Prod.snd))
  else none

/-- The entry of an item, when the item has it. -/
def keyOf? (name a : Item) : Option Item :=
  match entryOf? .empty name a with
  | some .empty => none
  | found => found

/-- Sorts a list, by an entry of its items when one is named. -/
def sort? (items : List Item) : Option Item → Option Item
  | none => sortByKey? (items.map fun a => (some a, a))
  | some name => sortByKey? (items.map fun a => (keyOf? name a, a))

/-- Sorts a list by text without regard to case. -/
def sortNatural? (items : List Item) (name : Option Item) : Option Item :=
  let key := fun a => match name with
    | none => some (Item.text (Text.lower a.plainText))
    | some name => (keyOf? name a).map fun k => .text (Text.lower k.plainText)
  sortByKey? (items.map fun a => (key a, a))

/-- Whether an entry of an item is the wanted one, or counts at all when none is wanted. -/
def fits (name : Item) (wanted : Option Item) (a : Item) : Bool :=
  let found := (entryOf? .null name a).getD .null
  match wanted with
  | some .null => !(found.equal (.bool false) || found.equal .null)
  | some .absent => !(found.equal (.bool false) || found.equal .null)
  | none => !(found.equal (.bool false) || found.equal .null)
  | some w => found.equal w

/-- A filter that looks for an entry in the items of a list. -/
def onFitting (name : String) (f : (Item → Bool) → List Item → Item) : Filter :=
  ⟨name, 1, ["attr", "value"], fun a arguments =>
    match arguments with
    | [some key, wanted] => some (f (fits key wanted) (itemsOf a))
    | _ => none⟩

/-- The sum of the items. -/
def sum? (items : List Item) : Option Item :=
  items.foldlM (fun total a => combine (· + ·) Decimal.Exact.add (numberOf total) (numberOf a))
    (.int 0)

/-- The items of a second list. -/
def secondList? : Item → Option (List Item)
  | .list items => some items
  | .range first stop => some (Item.rangeItems first stop)
  | .pair k v => some [.text k, v]
  | .absent => some []
  | _ => none

/-- The first or last item of a sequence that is no text. -/
def endItem (choose : List Item → Option Item) : Item → Item
  | .object entries => (choose (entries.map fun (k, v) => .pair k v)).getD .null
  | a => (a.items?.bind choose).getD .null

/-- The filters on lists. -/
def sequence : List Filter := [
  plain "first" (endItem List.head?),
  plain "last" (endItem List.getLast?),
  plain "size" fun a => .int (a.size?.getD 0),
  onItems "reverse" fun items => .list items.reverse,
  ⟨"join", 0, ["separator"], fun a arguments =>
    let separator := match arguments with
      | [some s] => s.plainText
      | _ => " "
    some (.text (Text.join separator ((itemsOf a).map Item.plainText)))⟩,
  ⟨"concat", 1, ["second_array"], fun a arguments => do
    let second ← arguments.head?.join
    return .list (itemsOf a ++ (← secondList? second))⟩,
  ⟨"map", 1, ["key"], fun a arguments => do
    let name ← arguments.head?.join
    return .list (← (itemsOf a).mapM (entryOf? .absent (.text name.plainText)))⟩,
  ⟨"sort", 0, ["key"], fun a arguments => sort? (itemsOf a) arguments.head?.join⟩,
  ⟨"sort_natural", 0, ["key"], fun a arguments => sortNatural? (itemsOf a) arguments.head?.join⟩,
  ⟨"uniq", 0, ["key"], fun a arguments =>
    let key := match arguments.head?.join with
      | some name => fun a => (entryOf? .absent name a).getD .absent
      | none => fun a => a
    some (.list (withoutRepeats key [] (itemsOf a)))⟩,
  ⟨"compact", 0, ["key"], fun a arguments =>
    let key := match arguments.head?.join with
      | some name => fun a => (entryOf? .null name a).getD .null
      | none => fun a => a
    some (.list ((itemsOf a).filter fun a => match key a with
      | .null => false
      | _ => true))⟩,
  ⟨"sum", 0, ["key"], fun a arguments =>
    match arguments.head?.join with
    | some name => do sum? (← (itemsOf a).mapM (entryOf? (.int 0) name))
    | none => sum? (itemsOf a)⟩,
  onFitting "where" fun fits items => .list (items.filter fits),
  onFitting "reject" fun fits items => .list (items.filter fun a => !fits a),
  onFitting "find" fun fits items => (items.find? fits).getD .null,
  onFitting "find_index" fun fits items =>
    ((items.findIdx? fits).map fun (i : Nat) => Item.int i).getD .null,
  onFitting "has" fun fits items => .bool (items.any fits)]

end Helpdesk.Template.Filter
