/-!
# Helpdesk.Text.Slice — positions, cuts and joins, counted in code points.

A length, an index or a limit is always a number of code points. A position may be negative and then
counts from the end; a cut past either end stops there, so slicing never fails.
-/
namespace Helpdesk.Text

/-- The place that a signed position names in a sequence of `length` items, held inside it. -/
def place (length : Nat) (position : Int) : Nat :=
  if position < 0 then (position + length).toNat else min position.toNat length

/-- The items between two signed positions, the second one excluded. -/
def slice {α : Type} (items : List α) (start stop : Int) : List α :=
  let first := place items.length start
  let last := place items.length stop
  (items.drop first).take (last - first)

/-- The items before a signed position. -/
def upTo {α : Type} (items : List α) (stop : Int) : List α :=
  items.take (place items.length stop)

/-- The last `n` items. -/
def lastItems {α : Type} (n : Nat) (items : List α) : List α :=
  items.drop (items.length - n)

/-- The first `n` code points of a text. -/
def take (n : Nat) (s : String) : String :=
  String.ofList (s.toList.take n)

/-- Text cut to a limit, with three dots where something was cut. -/
def clip (limit : Nat) (s : String) : String :=
  if s.length ≤ limit then s else take limit s ++ "..."

/-- Texts one after another with a separator between neighbours. -/
def join (separator : String) : List String → String
  | [] => ""
  | [s] => s
  | s :: rest => s ++ separator ++ join separator rest

/-- A text repeated. -/
def repeated (s : String) : Nat → String
  | 0 => ""
  | n + 1 => s ++ repeated s n

/-- `rest` when `word` stands at the front of `cs`. -/
def stripWord : List Char → List Char → Option (List Char)
  | [], cs => some cs
  | _ :: _, [] => none
  | w :: word, c :: cs => if w = c then stripWord word cs else none

/-- Whether `word` occurs in `cs`. -/
def occursIn (word : List Char) : List Char → Bool
  | [] => word.isEmpty
  | c :: cs => (stripWord word (c :: cs)).isSome || occursIn word cs

/-- The first line of a text: all before the first line feed. -/
def firstLine (s : String) : String :=
  String.ofList (s.toList.takeWhile (· != '\n'))

/-- The entries of a list with later repetitions left out. -/
def distinct {α : Type} [BEq α] (items : List α) : List α :=
  items.foldl (fun seen x => if seen.contains x then seen else seen ++ [x]) []

end Helpdesk.Text
