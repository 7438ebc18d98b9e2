import Helpdesk.Condition.Expr
import Helpdesk.Decimal.Reader

/-!
# Helpdesk.Condition.Numeral — numbers in conditions.

Integers are decimal, or hexadecimal, octal or binary with a marker after a leading zero; a decimal
integer has no leading zero unless it is zero. A point or an exponent makes a float and a final `j`
an imaginary number. Single underscores may stand between digits. What follows a number must not
run on as a word, except that a keyword may be glued to it.
-/
namespace Helpdesk.Condition

/-- Digits of a class with single underscores before digits, and the rest of the text. -/
def readDigits (p : Char → Bool) : List Char → Option (List Char × List Char)
  | [] => some ([], [])
  | '_' :: c :: rest =>
    if p c then (readDigits p rest).map fun (ds, after) => (c :: ds, after) else none
  | c :: rest =>
    if p c then (readDigits p rest).map fun (ds, after) => (c :: ds, after)
    else if c = '_' then none
    else some ([], c :: rest)

/-- Whether a character can go on a word as the scanner sees it: any beyond ASCII can. -/
def runsOn (c : Char) : Bool :=
  c.isAlphanum || c == '_' || decide (128 ≤ c.toNat)

/-- The keywords that may be glued to a number. -/
def gluedWords : List (List Char) :=
  ["and", "else", "for", "if", "in", "is", "or", "not"].map String.toList

/-- Whether a number may end before this text. -/
def endsNumber (cs : List Char) : Bool :=
  match cs with
  | [] => true
  | c :: _ => !runsOn c || gluedWords.any (·.isPrefixOf cs)

/-- The value of a digit of any base up to sixteen. -/
def baseDigit (c : Char) : Nat :=
  if c.isDigit then c.toNat - 48 else c.toLower.toNat - 87

/-- An integer written with a marker for its base. -/
def readBased (base : Nat) (p : Char → Bool) (cs : List Char) : Option (Constant × List Char) := do
  let (ds, rest) ← readDigits p cs
  if ds.isEmpty || !endsNumber rest then none
  else some (.int (ds.foldl (fun n d => base * n + baseDigit d) 0), rest)

/-- The most digits of a decimal integer. -/
def maxDecimalDigits : Nat := 4300

/-- A number after its whole part, fraction and power of ten have been read. -/
def finishNumber (whole fraction : List Char) (power : Option Int) (hasPoint : Bool)
    (cs : List Char) : Option (Constant × List Char) :=
  let x := (Decimal.Numeral.mk whole fraction (power.getD 0)).toFloat
  let number := match cs with
    | c :: rest => if c = 'j' ∨ c = 'J' then (Constant.imaginary x, rest, false)
        else (.float x, cs, !hasPoint && power.isNone)
    | [] => (.float x, cs, !hasPoint && power.isNone)
  let (constant, rest, isInteger) := number
  if !endsNumber rest then none
  else if !isInteger then some (constant, rest)
  else if maxDecimalDigits < whole.length then none
  else if whole.head? = some '0' ∧ whole.any (· != '0') then none
  else some (.int (Decimal.ofDigits whole), rest)

/-- A number from its exponent on. -/
def readPower (whole fraction : List Char) (hasPoint : Bool) (cs : List Char) :
    Option (Constant × List Char) := do
  match cs with
  | e :: rest =>
    if e = 'e' ∨ e = 'E' then
      let (sign, after) := match rest with
        | '+' :: r => (some false, r)
        | '-' :: r => (some true, r)
        | r => (none, r)
      if (after.head?.map Char.isDigit).getD false then
        let (ds, r) ← readDigits Char.isDigit after
        let n : Int := Decimal.ofDigits ds
        finishNumber whole fraction (some (if sign = some true then -n else n)) hasPoint r
      else if sign.isSome then none
      else finishNumber whole fraction none hasPoint cs
    else finishNumber whole fraction none hasPoint cs
  | [] => finishNumber whole fraction none hasPoint cs

/-- A number from its point on. -/
def readFraction (whole cs : List Char) : Option (Constant × List Char) := do
  match cs with
  | '.' :: rest =>
    if (rest.head?.map Char.isDigit).getD false then
      let (ds, r) ← readDigits Char.isDigit rest
      readPower whole ds true r
    else readPower whole [] true rest
  | _ => readPower whole [] false cs

/-- A number at the front of the text, which starts with a digit or with a point and a digit. -/
def readNumber (cs : List Char) : Option (Constant × List Char) := do
  match cs with
  | '0' :: 'x' :: rest => readBased 16 isHexDigit rest
  | '0' :: 'X' :: rest => readBased 16 isHexDigit rest
  | '0' :: 'o' :: rest => readBased 8 (fun c => '0' ≤ c && c ≤ '7') rest
  | '0' :: 'O' :: rest => readBased 8 (fun c => '0' ≤ c && c ≤ '7') rest
  | '0' :: 'b' :: rest => readBased 2 (fun c => c == '0' || c == '1') rest
  | '0' :: 'B' :: rest => readBased 2 (fun c => c == '0' || c == '1') rest
  | _ =>
    let (whole, rest) ← readDigits Char.isDigit cs
    readFraction whole rest
where
  isHexDigit (c : Char) : Bool :=
    c.isDigit || ('a' ≤ c && c ≤ 'f') || ('A' ≤ c && c ≤ 'F')

end Helpdesk.Condition
