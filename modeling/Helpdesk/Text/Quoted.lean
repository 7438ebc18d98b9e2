import Helpdesk.Text.Printable

/-!
# Helpdesk.Text.Quoted — text shown between quotes.

Quoted text names itself without ambiguity in a message. Apostrophes delimit it, or double quotes
when it holds an apostrophe and no double quote. The delimiter and the backslash are escaped, line
feed, carriage return and tab have short escapes, and every other unprintable character is spelled
by its code point in two, four or eight hexadecimal digits.
-/
namespace Helpdesk.Text

/-- The lowest `width` hexadecimal digits of a number. -/
def hexDigits : Nat → Nat → List Char
  | 0, _ => []
  | width + 1, n => hexDigits width (n / 16) ++ [Nat.digitChar (n % 16)]

/-- One character as it stands between delimiters. -/
def quotedChar (delimiter : Char) (c : Char) : List Char :=
  if c = delimiter ∨ c = '\\' then ['\\', c]
  else if c = '\n' then ['\\', 'n']
  else if c = '\r' then ['\\', 'r']
  else if c = '\t' then ['\\', 't']
  else if isPrintable c then [c]
  else if c.toNat < 0x100 then '\\' :: 'x' :: hexDigits 2 c.toNat
  else if c.toNat < 0x10000 then '\\' :: 'u' :: hexDigits 4 c.toNat
  else '\\' :: 'U' :: hexDigits 8 c.toNat

/-- The delimiter that a text is quoted with. -/
def delimiterFor (cs : List Char) : Char :=
  if cs.contains '\'' && !cs.contains '"' then '"' else '\''

/-- Text between quotes. -/
def quoted (s : String) : String :=
  let delimiter := delimiterFor s.toList
  String.ofList (delimiter :: s.toList.flatMap (quotedChar delimiter) ++ [delimiter])

end Helpdesk.Text
