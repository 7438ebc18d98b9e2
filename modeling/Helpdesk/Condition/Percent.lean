import Helpdesk.Condition.Operand
import Helpdesk.Decimal.Reader
import Helpdesk.Decimal.Significant

/-!
# Helpdesk.Condition.Percent — texts with percent fields.

`text % operand` fills the fields of a text. A field is a percent sign, an optional name in
parentheses, flags, a width, a precision and a letter that says how the operand is written. One
operand fills one field; a field with a name takes the entry of an object instead and may be
repeated. An operand that is no container and fills no field is an error.

Bytes are filled by the same rules, with byte values in place of code points.
-/
namespace Helpdesk.Condition.Percent

/-- What stands between the percent sign and the letter, the name apart. -/
structure Layout where
  left : Bool
  plus : Bool
  space : Bool
  alternate : Bool
  zeros : Bool
  width : Nat
  precision : Option Nat

/-- A layout that asks for nothing. -/
def Layout.plain : Layout :=
  ⟨false, false, false, false, false, 0, none⟩

/-- The operand at hand. -/
structure Supply where
  /-- What `%` was applied to. -/
  whole : Operand
  /-- What the next field takes. -/
  next : Operand
  taken : Bool

abbrev Result (α : Type) := Except OperatorFault α

/-- The largest width that is read. -/
def maxSize : Nat := Nat.pow 2 63 - 1

/-- The largest precision that is read. -/
def maxPrecision : Nat := Nat.pow 2 31 - 1

/-- Whether an operand may be asked for names. -/
def isContainer : Operand → Bool
  | .object _ => true
  | .list _ => true
  | .bytes _ => true
  | _ => false

/-- Hands out the operand, once. -/
def Supply.take (supply : Supply) : Result (Operand × Supply) :=
  if supply.taken then .error .kindMismatch else .ok (supply.next, { supply with taken := true })

/-- The text up to the parenthesis that closes the name, and what follows it. -/
def readName : Nat → List Char → Option (List Char × List Char)
  | _, [] => none
  | depth, c :: rest =>
    if c = ')' then
      if depth = 0 then some ([], rest)
      else (readName (depth - 1) rest).map fun (name, r) => (c :: name, r)
    else (readName (if c = '(' then depth + 1 else depth) rest).map fun (name, r) => (c :: name, r)

/-- The entry that a named field takes. -/
def named (bytes : Bool) (whole : Operand) (name : List Char) : Result Operand :=
  match whole with
  | .object entries =>
    if bytes then .error .missingName
    else (entries.lookup (String.ofList name)).elim (.error .missingName) .ok
  | _ => .error .kindMismatch

/-- The flags at the front of a field. -/
def readFlags : Layout → List Char → Layout × List Char
  | layout, [] => (layout, [])
  | layout, c :: rest =>
    if c = '-' then readFlags { layout with left := true } rest
    else if c = '+' then readFlags { layout with plus := true } rest
    else if c = ' ' then readFlags { layout with space := true } rest
    else if c = '#' then readFlags { layout with alternate := true } rest
    else if c = '0' then readFlags { layout with zeros := true } rest
    else (layout, c :: rest)

/-- A size up to a limit, written out or taken from the operand. -/
def readSize (limit : Nat) (supply : Supply) (cs : List Char) :
    Result (Int × Supply × List Char) :=
  match cs with
  | '*' :: rest => do
    let (a, supply) ← supply.take
    match a.integer? with
    | some n => if n.natAbs ≤ limit then .ok (n, supply, rest) else .error .overflow
    | none => .error .kindMismatch
  | _ =>
    let ds := cs.takeWhile Char.isDigit
    let n : Int := Decimal.ofDigits ds
    if n ≤ limit then .ok (n, supply, cs.drop ds.length) else .error .badValue

/-- Flags, width and precision of a field. -/
def readLayout (supply : Supply) (cs : List Char) : Result (Layout × Supply × List Char) := do
  let (layout, cs) := readFlags .plain cs
  let (width, supply, cs) ← readSize maxSize supply cs
  let layout := { layout with left := layout.left || decide (width < 0), width := width.natAbs }
  match cs with
  | '.' :: rest =>
    let (precision, supply, cs) ← readSize maxPrecision supply rest
    return ({ layout with precision := some precision.toNat }, supply, cs)
  | _ => return (layout, supply, cs)

/-- A written operand before it is laid out: its sign, the mark of its base and its body. -/
structure Written where
  sign : Option Char
  mark : List Char
  body : List Char
  /-- Whether zeros may fill the width. -/
  numeric : Bool

/-- A written operand within its width. -/
def Layout.apply (layout : Layout) (w : Written) : List Char :=
  let sign := if !w.numeric then [] else match w.sign with
    | some c => [c]
    | none => if layout.plus then ['+'] else if layout.space then [' '] else []
  let room := layout.width - (sign.length + w.mark.length + w.body.length)
  if w.numeric && layout.zeros && !layout.left then
    sign ++ w.mark ++ List.replicate room '0' ++ w.body
  else if layout.left then sign ++ w.mark ++ w.body ++ List.replicate room ' '
  else List.replicate room ' ' ++ sign ++ w.mark ++ w.body

/-- A text cut to the precision. -/
def writeText (layout : Layout) (s : String) : Written :=
  ⟨none, [], (layout.precision.elim s.toList fun n => s.toList.take n), false⟩

/-- The integer that an operand stands for in a decimal field: floats lose their fraction. -/
def wholeNumber (a : Operand) : Result Int :=
  match a with
  | .float x =>
    match Decimal.Binary.ofFloat? x with
    | some b => .ok b.truncated
    | none => if x.isNaN then .error .badValue else .error .overflow
  | a => a.integer?.elim (.error .kindMismatch) .ok

/-- An integer to a base. -/
def writeInteger (layout : Layout) (letter : Char) (n : Int) : Written :=
  let base := if letter = 'x' ∨ letter = 'X' then 16 else if letter = 'o' then 8 else 10
  let ds := Decimal.padZeros (layout.precision.getD 0) (Nat.toDigits base n.natAbs)
  let ds := if letter = 'X' then ds.map Char.toUpper else ds
  let mark := if layout.alternate && base != 10 then ['0', letter] else []
  ⟨if n < 0 then some '-' else none, mark, ds, true⟩

/-- A float in one of the three notations. -/
def writeFloat (layout : Layout) (letter : Char) (x : Float) : Written :=
  let places := layout.precision.getD 6
  let sign := if Decimal.isNegative x && !x.isNaN then some '-' else none
  let lower := letter.toLower
  let body := match Decimal.Binary.ofFloat? x with
    | none => if x.isNaN then ['n', 'a', 'n'] else ['i', 'n', 'f']
    | some b =>
      if lower = 'f' then b.fixedText layout.alternate places
      else if lower = 'e' then b.exponentialText layout.alternate places
      else b.generalText layout.alternate (max places 1)
  ⟨sign, [], if letter.isUpper then body.map Char.toUpper else body, true⟩

/-- Text in which every character beyond ASCII is spelled by its code point. -/
def asciiOnly (s : String) : String :=
  String.ofList (s.toList.flatMap fun c =>
    let n := c.toNat
    if n < 128 then [c]
    else if n < 0x100 then '\\' :: 'x' :: Text.hexDigits 2 n
    else if n < 0x10000 then '\\' :: 'u' :: Text.hexDigits 4 n
    else '\\' :: 'U' :: Text.hexDigits 8 n)

/-- The one character of a character field. -/
def character (bytes : Bool) (a : Operand) : Result Char :=
  match a with
  | .text s =>
    match bytes, s.toList with
    | false, [c] => .ok c
    | _, _ => .error .kindMismatch
  | .bytes bs =>
    match bytes, bs with
    | true, [n] => .ok (Char.ofNat n)
    | _, _ => .error .kindMismatch
  | a =>
    match a.integer? with
    | none => .error .kindMismatch
    | some n =>
      if 0 ≤ n ∧ n < (if bytes then 256 else 0x110000) then .ok (Char.ofNat n.toNat)
      else .error .overflow

/-- An operand as the letter asks. -/
def write (bytes : Bool) (layout : Layout) (letter : Char) (a : Operand) : Result Written :=
  if letter = 'r' ∨ letter = 'a' then do
    let text ← a.writtenAs a.literal
    return writeText layout (if bytes || letter = 'a' then asciiOnly text else text)
  else if letter = 's' ∨ (bytes ∧ letter = 'b') then
    match bytes, a with
    | false, a => do return writeText layout (← a.writtenAs a.plainText)
    | true, .bytes bs => .ok (writeText layout (String.ofList (bs.map Char.ofNat)))
    | true, _ => .error .kindMismatch
  else if letter = 'd' ∨ letter = 'i' ∨ letter = 'u' then do
    let n ← wholeNumber a
    (Operand.int n).writtenAs (writeInteger layout letter n)
  else if letter = 'o' ∨ letter = 'x' ∨ letter = 'X' then
    a.integer?.elim (.error .kindMismatch) fun n => .ok (writeInteger layout letter n)
  else if ['e', 'f', 'g', 'E', 'F', 'G'].contains letter then
    match a.number? with
    | none => .error .kindMismatch
    | some n =>
      match n.toFloat with
      | .ok x => .ok (writeFloat layout letter x)
      | .error fault => .error (.ofArithmetic fault)
  else if letter = 'c' then
    (character bytes a).map fun c => ⟨none, [], [c], false⟩
  else .error .badValue

/-- Drops the letter that once told the size of a number. -/
def skipSize : List Char → List Char
  | c :: rest => if c = 'h' ∨ c = 'l' ∨ c = 'L' then rest else c :: rest
  | [] => []

/-- The operand that the next field takes, and what follows the name in front of it. -/
def readTaker (bytes : Bool) (supply : Supply) (cs : List Char) : Result (Supply × List Char) :=
  match cs with
  | '(' :: rest =>
    if !isContainer supply.whole || (bytes && supply.whole.kind == .bytes) then
      .error .kindMismatch
    else match readName 0 rest with
      | none => .error .badValue
      | some (name, r) => do
        return ({ supply with next := ← named bytes supply.whole name, taken := false }, r)
  | _ => .ok (supply, cs)

/-- One field after its percent sign: its text, the operand left over and the rest. A second percent
sign right after the first stands for itself. -/
def fillField (bytes : Bool) (supply : Supply) (cs : List Char) :
    Result (List Char × Supply × List Char) :=
  match cs with
  | '%' :: rest => .ok (['%'], supply, rest)
  | cs => do
    let (supply, cs) ← readTaker bytes supply cs
    let (layout, supply, cs) ← readLayout supply cs
    match skipSize cs with
    | [] => .error .badValue
    | letter :: rest =>
      let (a, supply) ← supply.take
      let written ← write bytes layout letter a
      return (layout.apply written, supply, rest)

/-- Fills all fields. Each step consumes a character, so the length of the text is enough fuel. -/
def fillFrom (bytes : Bool) : Nat → Supply → List Char → Result (List Char × Supply)
  | 0, supply, _ => .ok ([], supply)
  | _ + 1, supply, [] => .ok ([], supply)
  | fuel + 1, supply, c :: rest =>
    if c = '%' then do
      let (text, supply, rest) ← fillField bytes supply rest
      let (more, supply) ← fillFrom bytes fuel supply rest
      return (text ++ more, supply)
    else do
      let (more, supply) ← fillFrom bytes fuel supply rest
      return (c :: more, supply)

/-- The characters of a template with its fields filled from one operand. -/
def fill (bytes : Bool) (template : List Char) (operand : Operand) : Result (List Char) := do
  let (text, supply) ← fillFrom bytes template.length ⟨operand, operand, false⟩ template
  let mayStayUnused := isContainer operand && !(bytes && operand.kind == .bytes)
  if supply.taken || mayStayUnused then return text else .error .kindMismatch

end Helpdesk.Condition.Percent
