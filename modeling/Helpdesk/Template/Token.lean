import Helpdesk.Decimal.Reader
import Helpdesk.Text.Slice

/-!
# Helpdesk.Template.Token — the words of template expressions.

Strings stand between apostrophes or double quotes and know no escapes. A word starts with a letter,
an underscore or any character beyond ASCII and may contain hyphens.
-/
namespace Helpdesk.Template

inductive Token where
  | word (s : String)
  | string (s : String)
  | int (n : Int)
  | float (x : Float)
  | symbol (s : String)

namespace Token

/-- The symbols, longer ones before their beginnings. -/
def symbols : List String := [
  "..", "==", "!=", "<>", "<=", ">=", "=", "<", ">", ".", ",", ":", "|", "(", ")", "[", "]"]

/-- Whether a character starts a word. -/
def startsWord (c : Char) : Bool :=
  c.isAlpha || c == '_' || (0x80 ≤ c.toNat && c.toNat ≤ 0xffff)

/-- Whether a character continues a word. -/
def continuesWord (c : Char) : Bool :=
  startsWord c || c.isDigit || c == '-'

/-- White space between tokens. -/
def isSpace (c : Char) : Bool :=
  c == ' ' || c == '\t' || c == '\n' || c == '\r'

/-- A number without its sign: digits, with a fraction when more digits follow a point. -/
def readNumber (negative : Bool) (cs : List Char) : Token × List Char :=
  let whole := cs.takeWhile Char.isDigit
  let rest := cs.drop whole.length
  let fraction := match rest with
    | '.' :: r => r.takeWhile Char.isDigit
    | _ => []
  let rest := if fraction.isEmpty then rest else rest.drop (fraction.length + 1)
  if fraction.isEmpty then
    let n : Int := Decimal.ofDigits whole
    (.int (if negative then -n else n), rest)
  else
    let x := (Decimal.Numeral.mk whole fraction 0).toFloat
    (.float (if negative then -x else x), rest)

/-- The text up to a quote, and what follows the quote. -/
def readQuoted (quote : Char) : List Char → Option (List Char × List Char)
  | [] => none
  | c :: rest =>
    if c = quote then some ([], rest) else (readQuoted quote rest).map fun (s, r) => (c :: s, r)

/-- One token at the front of the text. -/
def read? (cs : List Char) : Option (Token × List Char) :=
  match cs with
  | [] => none
  | c :: rest =>
    if c = '\'' ∨ c = '"' then
      (readQuoted c rest).map fun (s, r) => (.string (String.ofList s), r)
    else if c.isDigit then some (readNumber false cs)
    else if c = '-' ∧ (rest.head?.map Char.isDigit).getD false then some (readNumber true rest)
    else if startsWord c then
      let word := cs.takeWhile continuesWord
      some (.word (String.ofList word), cs.drop word.length)
    else
      (symbols.find? fun s => s.toList.isPrefixOf cs).map fun s => (.symbol s, cs.drop s.length)

/-- The tokens of a text. Each one takes at least a character, so its length is enough fuel. -/
def readAll : Nat → List Char → Option (List Token)
  | 0, _ => some []
  | fuel + 1, cs =>
    match cs.dropWhile isSpace with
    | [] => some []
    | cs => do
      let (token, rest) ← read? cs
      return token :: (← readAll fuel rest)

/-- The tokens of an expression, unless a character starts none. -/
def ofText? (s : String) : Option (List Token) :=
  readAll (s.length + 1) s.toList

end Token

end Helpdesk.Template
