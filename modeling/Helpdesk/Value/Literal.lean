import Helpdesk.Decimal.Shortest
import Helpdesk.Text.Quoted
import Helpdesk.Text.Slice
import Helpdesk.Value

/-!
# Helpdesk.Value.Literal — the text of a value in prompts and messages.

A value that is printed inside other text is written as a literal: lists in square brackets and
objects in braces, items separated by a comma and a space, names and nested texts quoted. A text on
its own is printed as it is.
-/
namespace Helpdesk

/-- Floats in literals: no exponent from `0.0001` up to below `10 ^ 16`. -/
def literalFloats : Decimal.Layout :=
  ⟨-3, 16, "inf", "-inf", "nan"⟩

/-- An integer in decimal digits. -/
def decimal (n : Int) : String :=
  if n < 0 then "-" ++ String.ofList (Decimal.digits n.natAbs)
  else String.ofList (Decimal.digits n.natAbs)

namespace Value

mutual

/-- The literal of a value. -/
def literal : Value → String
  | .null => "None"
  | .bool true => "True"
  | .bool false => "False"
  | .int n => decimal n
  | .float x => literalFloats.write x
  | .text s => Text.quoted s
  | .list items => "[" ++ Text.join ", " (literalItems items) ++ "]"
  | .object entries => "\x7b" ++ Text.join ", " (literalEntries entries) ++ "\x7d"

/-- The literals of the items of a list. -/
def literalItems : List Value → List String
  | [] => []
  | v :: rest => literal v :: literalItems rest

/-- The entries of an object, each as `name: value`. -/
def literalEntries : List (String × Value) → List String
  | [] => []
  | (k, v) :: rest => (Text.quoted k ++ ": " ++ literal v) :: literalEntries rest

end

/-- A value as plain text: a text as it is, anything else as its literal. -/
def plainText : Value → String
  | .text s => s
  | v => v.literal

end Value

end Helpdesk
