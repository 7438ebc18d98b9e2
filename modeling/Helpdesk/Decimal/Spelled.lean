import Helpdesk.Decimal.Reader
import Helpdesk.Text.Blank
import Helpdesk.Text.Case
import Helpdesk.Text.Word

/-!
# Helpdesk.Decimal.Spelled — numbers that people typed as text.

Blanks around the number are ignored, digits of every script are read, and single underscores may
stand between digits. Integers of more than a few thousand digits are refused.
-/
namespace Helpdesk.Decimal

/-- The value of a digit of any script, as a digit of ASCII. -/
def plainDigit? (c : Char) : Option Char :=
  (Text.digitValue? c).map fun d => Char.ofNat (48 + d)

/-- Digits of ASCII with single underscores between them removed; nothing unless the text starts and
ends with a digit. -/
def joinDigits? : List Char → Option (List Char)
  | [] => none
  | [c] => if c.isDigit then some [c] else none
  | c :: '_' :: rest => if c.isDigit then (joinDigits? rest).map (c :: ·) else none
  | c :: rest => if c.isDigit then (joinDigits? rest).map (c :: ·) else none

/-- A sign and what follows it. -/
def splitSign : List Char → Bool × List Char
  | '-' :: rest => (true, rest)
  | '+' :: rest => (false, rest)
  | cs => (false, cs)

/-- Text without outer blanks, its digits spelled in ASCII. -/
def plainChars (s : String) : List Char :=
  (Text.trimChars s.toList).map fun c => (plainDigit? c).getD c

/-- The most digits of an integer that is read. -/
def maxSpelledDigits : Nat := 4300

/-- The integer that a text spells. -/
def spelledInt? (s : String) : Option Int := do
  let (negative, cs) := splitSign (plainChars s)
  let ds ← joinDigits? cs
  if maxSpelledDigits < ds.length then none
  else
    let n : Int := ofDigits ds
    return if negative then -n else n

/-- Digits that may be missing altogether. -/
def joinDigitsOrNone? (cs : List Char) : Option (List Char) :=
  if cs.isEmpty then some [] else joinDigits? cs

/-- The power of ten after an exponent mark. -/
def spelledPower? (cs : List Char) : Option Int := do
  let (negative, cs) := splitSign cs
  let ds ← joinDigits? cs
  let n : Int := ofDigits ds
  return if negative then -n else n

/-- The magnitude of a float that is written in digits. -/
def spelledMagnitude? (cs : List Char) : Option Float := do
  let isMark := fun c => c == 'e' || c == 'E'
  let mantissa := cs.takeWhile fun c => !isMark c
  let power ← match cs.drop mantissa.length with
    | [] => some 0
    | _ :: rest => spelledPower? rest
  let whole := mantissa.takeWhile (· != '.')
  let fraction := mantissa.drop (whole.length + 1)
  let w ← joinDigitsOrNone? whole
  let f ← joinDigitsOrNone? fraction
  if w.isEmpty ∧ f.isEmpty then none else return (Numeral.mk w f power).toFloat

/-- The float that a text spells, in digits or as one of the words for infinity and NaN. -/
def spelledFloat? (s : String) : Option Float := do
  let (negative, cs) := splitSign (plainChars s)
  let word := Text.lower (String.ofList cs)
  let x ← if word = "inf" ∨ word = "infinity" then some infinity
    else if word = "nan" then some (0.0 / 0.0)
    else spelledMagnitude? cs
  return if negative then -x else x

end Helpdesk.Decimal
