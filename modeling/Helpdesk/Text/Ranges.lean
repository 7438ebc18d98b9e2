/-!
# Helpdesk.Text.Ranges — character classes given as tables of code point ranges.

A table is an array of closed ranges in increasing order. Membership halves the table, so a class of
many hundred ranges costs about ten comparisons.
-/
namespace Helpdesk.Text

/-- Closed ranges of code points, in increasing order and without overlap. -/
abbrev Ranges := Array (Nat × Nat)

namespace Ranges

/-- Looks for `n` among the ranges with index at least `low` and below `high`. -/
def search (table : Ranges) (n : Nat) : Nat → Nat → Nat → Bool
  | 0, _, _ => false
  | fuel + 1, low, high =>
    if low < high then
      let middle := (low + high) / 2
      match table[middle]? with
      | none => false
      | some (first, last) =>
        if n < first then search table n fuel low middle
        else if last < n then search table n fuel (middle + 1) high
        else true
    else false

/-- Whether a character lies in one of the ranges. -/
def has (table : Ranges) (c : Char) : Bool :=
  table.search c.toNat (table.size.log2 + 2) 0 table.size

end Ranges

end Helpdesk.Text
