import Helpdesk.Decimal.Reader
import Helpdesk.Value

/-!
# Helpdesk.Json.Reader — values from JSON text.

The reader accepts the JSON grammar and, beside it, the three words `NaN`, `Infinity` and
`-Infinity`. Controls inside a string are refused. A number with a fraction or an exponent is a
float, any other an integer of unbounded size, up to a limit on its digits. Of two entries with one
name the later value wins, in the place of the first.

The reader recurses on a budget of steps. One step is spent on each value and on each item, so a
budget of the length of the text is never used up.
-/
namespace Helpdesk.Json

/-- Why a text is no value. -/
inductive ReadError where
  /-- The text breaks the grammar where so many characters are left. -/
  | malformed (left : Nat)
  /-- An integer has more digits than are read. -/
  | hugeInteger
  deriving DecidableEq

/-- The most digits of an integer. -/
def maxIntegerDigits : Nat := 4300

/-- JSON white space. -/
def isSpace (c : Char) : Bool :=
  c == ' ' || c == '\t' || c == '\n' || c == '\r'

/-- The text after leading white space. -/
def skip (cs : List Char) : List Char :=
  cs.dropWhile isSpace

/-- The value of a hexadecimal digit. -/
def hexValue? (c : Char) : Option Nat :=
  let n := c.toNat
  if 48 ≤ n ∧ n ≤ 57 then some (n - 48)
  else if 97 ≤ n ∧ n ≤ 102 then some (n - 87)
  else if 65 ≤ n ∧ n ≤ 70 then some (n - 55)
  else none

/-- The code unit that four hexadecimal digits spell. -/
def unit? (a b c d : Char) : Option Nat := do
  return 4096 * (← hexValue? a) + 256 * (← hexValue? b) + 16 * (← hexValue? c) + (← hexValue? d)

/-- What a letter after a backslash stands for. -/
def escape? (c : Char) : Option Char :=
  if c = '"' ∨ c = '\\' ∨ c = '/' then some c
  else if c = 'n' then some '\n'
  else if c = 't' then some '\t'
  else if c = 'r' then some '\r'
  else if c = 'b' then some (Char.ofNat 8)
  else if c = 'f' then some (Char.ofNat 12)
  else none

/-- The character of one code unit, the replacement character for half of a pair. -/
def unitChar (u : Nat) : Char :=
  if 0xd800 ≤ u ∧ u < 0xe000 then Char.ofNat 0xfffd else Char.ofNat u

/-- The rest of a string after its opening quote; two escaped halves of a surrogate pair make one
character. A string without an end is an error where it begins, with `opened` characters left. -/
def readString (opened : Nat) : List Char → Except ReadError (List Char × List Char)
  | [] => .error (.malformed opened)
  | '"' :: rest => .ok ([], rest)
  | '\\' :: 'u' :: a :: b :: c :: d :: '\\' :: 'u' :: e :: f :: g :: h :: rest =>
    match unit? a b c d, unit? e f g h with
    | none, _ => .error (.malformed (rest.length + 11))
    | some _, none => .error (.malformed (rest.length + 5))
    | some high, some low =>
      if 0xd800 ≤ high ∧ high < 0xdc00 ∧ 0xdc00 ≤ low ∧ low < 0xe000 ∧ !rest.isEmpty then
        (readString opened rest).map fun (cs, r) =>
          (Char.ofNat (0x10000 + 1024 * (high - 0xd800) + (low - 0xdc00)) :: cs, r)
      else
        (readString opened ('\\' :: 'u' :: e :: f :: g :: h :: rest)).map fun (cs, r) =>
          (unitChar high :: cs, r)
  | '\\' :: 'u' :: a :: b :: c :: d :: rest =>
    match unit? a b c d with
    | none => .error (.malformed (rest.length + 5))
    | some u =>
      if rest.isEmpty then .error (.malformed 5)
      else (readString opened rest).map fun (cs, r) => (unitChar u :: cs, r)
  | '\\' :: 'u' :: rest => .error (.malformed (rest.length + 1))
  | '\\' :: e :: rest =>
    match escape? e with
    | some c => (readString opened rest).map fun (cs, r) => (c :: cs, r)
    | none => .error (.malformed (rest.length + 2))
  | c :: rest =>
    if c = '\\' then .error (.malformed opened)
    else if c.toNat < 32 then .error (.malformed (rest.length + 1))
    else (readString opened rest).map fun (cs, r) => (c :: cs, r)

/-- The exponent of a number, when one stands here. -/
def readExponent? : List Char → Option (Int × List Char)
  | e :: rest =>
    if e = 'e' ∨ e = 'E' then
      let (negative, rest) := match rest with
        | '-' :: r => (true, r)
        | '+' :: r => (false, r)
        | r => (false, r)
      let ds := rest.takeWhile Char.isDigit
      if ds.isEmpty then none
      else
        let n : Int := Decimal.ofDigits ds
        some (if negative then -n else n, rest.dropWhile Char.isDigit)
    else none
  | [] => none

/-- The digits before a point; a zero at the front stands alone. -/
def wholeDigits : List Char → List Char
  | '0' :: _ => ['0']
  | cs => cs.takeWhile Char.isDigit

/-- The digits after a point, when one stands here. -/
def fractionDigits : List Char → List Char
  | '.' :: rest => rest.takeWhile Char.isDigit
  | _ => []

/-- The text after a point and its digits; a point without digits stays. -/
def skipFraction (cs : List Char) : List Char :=
  if (fractionDigits cs).isEmpty then cs else cs.drop ((fractionDigits cs).length + 1)

/-- A number after its sign; what is no number is an error where its sign stands. -/
def readNumber (negative : Bool) (cs : List Char) : Except ReadError (Value × List Char) :=
  let whole := wholeDigits cs
  let rest := cs.drop whole.length
  let fraction := fractionDigits rest
  if whole.isEmpty then .error (.malformed (cs.length + (if negative then 1 else 0)))
  else match fraction, readExponent? (skipFraction rest) with
    | [], none =>
      if maxIntegerDigits < whole.length then .error .hugeInteger
      else
        let n : Int := Decimal.ofDigits whole
        .ok (.int (if negative then -n else n), rest)
    | fraction, none =>
      let x := (Decimal.Numeral.mk whole fraction 0).toFloat
      .ok (.float (if negative then -x else x), skipFraction rest)
    | fraction, some (power, rest) =>
      let x := (Decimal.Numeral.mk whole fraction power).toFloat
      .ok (.float (if negative then -x else x), rest)

/-- A word that stands for a value. -/
def readWord? (cs : List Char) : Option (Value × List Char) :=
  match cs with
  | 'n' :: 'u' :: 'l' :: 'l' :: rest => some (.null, rest)
  | 't' :: 'r' :: 'u' :: 'e' :: rest => some (.bool true, rest)
  | 'f' :: 'a' :: 'l' :: 's' :: 'e' :: rest => some (.bool false, rest)
  | 'N' :: 'a' :: 'N' :: rest => some (.float (0.0 / 0.0), rest)
  | 'I' :: 'n' :: 'f' :: 'i' :: 'n' :: 'i' :: 't' :: 'y' :: rest => some (.float (1.0 / 0.0), rest)
  | '-' :: 'I' :: 'n' :: 'f' :: 'i' :: 'n' :: 'i' :: 't' :: 'y' :: rest =>
    some (.float (-1.0 / 0.0), rest)
  | _ => none

/-- A word or a number. -/
def readScalar (cs : List Char) : Except ReadError (Value × List Char) :=
  match readWord? cs with
  | some found => .ok found
  | none =>
    match cs with
    | '-' :: rest => readNumber true rest
    | _ => readNumber false cs

mutual

/-- A value at the front of the text. -/
def readValue : Nat → List Char → Except ReadError (Value × List Char)
  | 0, cs => .error (.malformed cs.length)
  | fuel + 1, cs =>
    match cs with
    | '"' :: rest =>
      (readString cs.length rest).map fun (s, r) => (.text (String.ofList s), r)
    | '[' :: rest =>
      match skip rest with
      | ']' :: r => .ok (.list [], r)
      | body => do
        let (v, r) ← readValue fuel body
        let (vs, r) ← readItems fuel (skip r)
        return (.list (v :: vs), r)
    | '{' :: rest =>
      match skip rest with
      | '}' :: r => .ok (.object [], r)
      | body => do
        let (entry, r) ← readEntry fuel body
        let (entries, r) ← readEntries fuel (skip r)
        return (.object (Entries.ofList (entry :: entries)), r)
    | _ => readScalar cs

/-- The items after the first, up to the closing bracket. -/
def readItems : Nat → List Char → Except ReadError (List Value × List Char)
  | 0, cs => .error (.malformed cs.length)
  | fuel + 1, cs =>
    match cs with
    | ']' :: r => .ok ([], r)
    | ',' :: rest => do
      let (v, r) ← readValue fuel (skip rest)
      let (vs, r) ← readItems fuel (skip r)
      return (v :: vs, r)
    | cs => .error (.malformed cs.length)

/-- One entry of an object. -/
def readEntry : Nat → List Char → Except ReadError ((String × Value) × List Char)
  | 0, cs => .error (.malformed cs.length)
  | fuel + 1, cs =>
    match cs with
    | '"' :: rest => do
      let (name, r) ← readString cs.length rest
      match skip r with
      | ':' :: r =>
        let (v, r) ← readValue fuel (skip r)
        return ((String.ofList name, v), r)
      | r => .error (.malformed r.length)
    | cs => .error (.malformed cs.length)

/-- The entries after the first, up to the closing brace. -/
def readEntries : Nat → List Char → Except ReadError (List (String × Value) × List Char)
  | 0, cs => .error (.malformed cs.length)
  | fuel + 1, cs =>
    match cs with
    | '}' :: r => .ok ([], r)
    | ',' :: rest => do
      let (entry, r) ← readEntry fuel (skip rest)
      let (entries, r) ← readEntries fuel (skip r)
      return (entry :: entries, r)
    | cs => .error (.malformed cs.length)

end

/-- The value that a JSON text spells. -/
def read (s : String) : Except ReadError Value := do
  let cs := s.toList
  let (v, rest) ← readValue (cs.length + 2) (skip cs)
  match skip rest with
  | [] => return v
  | r => throw (.malformed r.length)

/-- Where in a text an error is. -/
def ReadError.position (s : String) : ReadError → Nat
  | malformed left => s.length - left
  | hugeInteger => 0

end Helpdesk.Json
