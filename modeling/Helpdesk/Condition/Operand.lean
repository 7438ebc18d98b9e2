import Helpdesk.Condition.Numeral
import Helpdesk.Number
import Helpdesk.Value.Literal

/-!
# Helpdesk.Condition.Operand — the values that conditions compute with.

Beside the values of the variable bag a condition can spell bytes, imaginary numbers and the
ellipsis. Booleans are the integers zero and one wherever a number is asked for. Equality is by
value and always defined; order is defined between numbers, between texts, between bytes and,
item by item, between lists.
-/
namespace Helpdesk.Condition

inductive Operand where
  | none
  | bool (b : Bool)
  | int (n : Int)
  | float (x : Float)
  | complex (re im : Float)
  | text (s : String)
  | bytes (bs : List Nat)
  | list (items : List Operand)
  | object (entries : List (String × Operand))
  | ellipsis
  deriving Inhabited

/-- Why an operation on operands has no result. -/
inductive OperatorFault where
  /-- The operation is not defined on operands of these kinds. -/
  | kindMismatch
  /-- The operands have the right kinds and a wrong value. -/
  | badValue
  | divisionByZero
  | overflow
  /-- A name that a text template asks for is missing. -/
  | missingName
  /-- The result would be too large to hold. -/
  | tooLarge
  deriving DecidableEq

/-- A fault of arithmetic as a fault of an operator. -/
def OperatorFault.ofArithmetic : ArithmeticFault → OperatorFault
  | .divisionByZero => .divisionByZero
  | .overflow => .overflow

namespace Operand

mutual

/-- A value of the bag as an operand. -/
def ofValue : Value → Operand
  | .null => .none
  | .bool b => .bool b
  | .int n => .int n
  | .float x => .float x
  | .text s => .text s
  | .list items => .list (ofValues items)
  | .object entries => .object (ofEntries entries)

/-- Values as operands. -/
def ofValues : List Value → List Operand
  | [] => []
  | v :: rest => ofValue v :: ofValues rest

/-- Entries as operands. -/
def ofEntries : List (String × Value) → List (String × Operand)
  | [] => []
  | (k, v) :: rest => (k, ofValue v) :: ofEntries rest

end

/-- A constant as an operand. -/
def ofConstant : Constant → Operand
  | .none => .none
  | .bool b => .bool b
  | .int n => .int n
  | .float x => .float x
  | .imaginary x => .complex 0.0 x
  | .text s => .text s
  | .bytes bs => .bytes bs
  | .ellipsis => .ellipsis

/-- What kind of operand this is. -/
def kind : Operand → Kind
  | .none => .null
  | .bool _ => .bool
  | .int _ => .int
  | .float _ => .float
  | .complex _ _ => .complex
  | .text _ => .text
  | .bytes _ => .bytes
  | .list _ => .list
  | .object _ => .object
  | .ellipsis => .ellipsis

/-- Whether an operand counts as true. -/
def counts : Operand → Bool
  | .none => false
  | .bool b => b
  | .int n => n != 0
  | .float x => x != 0.0
  | .complex re im => re != 0.0 || im != 0.0
  | .text s => s != ""
  | .bytes bs => !bs.isEmpty
  | .list items => !items.isEmpty
  | .object entries => !entries.isEmpty
  | .ellipsis => true

/-- The number that an operand is, booleans included. -/
def number? : Operand → Option Number
  | .bool b => some (.int (if b then 1 else 0))
  | .int n => some (.int n)
  | .float x => some (.float x)
  | _ => Option.none

/-- The integer that an operand is, booleans included. -/
def integer? : Operand → Option Int
  | .bool b => some (if b then 1 else 0)
  | .int n => some n
  | _ => Option.none

/-- The real and imaginary parts of any number. -/
def parts? : Operand → Option (Except ArithmeticFault (Float × Float))
  | .complex re im => some (.ok (re, im))
  | a => a.number?.map fun n => n.toFloat.map fun x => (x, 0.0)

/-! ## Text of operands -/

/-- A float as a part of a complex number: whole parts have no point. -/
def complexPart (x : Float) : String :=
  let s := literalFloats.write x
  match s.toList.reverse with
  | '0' :: '.' :: rest => String.ofList rest.reverse
  | _ => s

/-- One byte in the literal of a run of bytes. -/
def literalByte (delimiter : Char) (n : Nat) : List Char :=
  let c := Char.ofNat n
  if c = delimiter ∨ c = '\\' then ['\\', c]
  else if n = 9 then ['\\', 't']
  else if n = 10 then ['\\', 'n']
  else if n = 13 then ['\\', 'r']
  else if 32 ≤ n ∧ n < 127 then [c]
  else '\\' :: 'x' :: Text.hexDigits 2 n

mutual

/-- The literal of an operand. -/
def literal : Operand → String
  | .none => "None"
  | .bool true => "True"
  | .bool false => "False"
  | .int n => decimal n
  | .float x => literalFloats.write x
  | .complex re im =>
    if re == 0.0 && !Decimal.isNegative re then complexPart im ++ "j"
    else
      let sign := if Decimal.isNegative im then "" else "+"
      "(" ++ complexPart re ++ sign ++ complexPart im ++ "j)"
  | .text s => Text.quoted s
  | .bytes bs =>
    let delimiter := Text.delimiterFor (bs.map Char.ofNat)
    "b" ++ String.ofList (delimiter :: bs.flatMap (literalByte delimiter) ++ [delimiter])
  | .list items => "[" ++ Text.join ", " (literals items) ++ "]"
  | .object entries => "\x7b" ++ Text.join ", " (literalEntries entries) ++ "\x7d"
  | .ellipsis => "Ellipsis"

/-- The literals of several operands. -/
def literals : List Operand → List String
  | [] => []
  | a :: rest => literal a :: literals rest

/-- The entries of an object, each as `name: operand`. -/
def literalEntries : List (String × Operand) → List String
  | [] => []
  | (k, a) :: rest => (Text.quoted k ++ ": " ++ literal a) :: literalEntries rest

end

/-- An operand as plain text. -/
def plainText : Operand → String
  | .text s => s
  | a => a.literal

mutual

/-- Whether every integer in an operand has few enough digits to be written. -/
def isWritable : Operand → Bool
  | .int n => decide ((Decimal.digits n.natAbs).length ≤ maxDecimalDigits)
  | .list items => allWritable items
  | .object entries => entriesWritable entries
  | _ => true

/-- Whether several operands are writable. -/
def allWritable : List Operand → Bool
  | [] => true
  | a :: rest => isWritable a && allWritable rest

/-- Whether the operands of an object are writable. -/
def entriesWritable : List (String × Operand) → Bool
  | [] => true
  | (_, a) :: rest => isWritable a && entriesWritable rest

end

/-- What an operand is written as, if it can be written. -/
def writtenAs {α : Type} (a : Operand) (text : α) : Except OperatorFault α :=
  if a.isWritable then .ok text else .error .badValue

/-! ## Equality -/

/-- Equality of numbers, where an imaginary part has to be zero to equal a real number. -/
def numbersEqual (a b : Operand) : Option Bool :=
  match a, b with
  | .complex r i, .complex s j => some (r == s && i == j)
  | .complex r i, b => b.number?.map fun n => i == 0.0 && Number.equal (.float r) n
  | a, .complex s j => a.number?.map fun n => j == 0.0 && Number.equal n (.float s)
  | a, b => do return Number.equal (← a.number?) (← b.number?)

mutual

/-- Equality by value. Objects are equal when they have the same names with equal values, in
whatever order. -/
def equal : Operand → Operand → Bool
  | .none, .none => true
  | .ellipsis, .ellipsis => true
  | .text s, .text t => s == t
  | .bytes s, .bytes t => s == t
  | .list xs, .list ys => equalLists xs ys
  | .object xs, .object ys => xs.length == ys.length && equalEntries xs ys
  | a, b => (numbersEqual a b).getD false

/-- Equality item by item. -/
def equalLists : List Operand → List Operand → Bool
  | [], [] => true
  | a :: as, b :: bs => equal a b && equalLists as bs
  | _, _ => false

/-- Whether every entry has an equal one under its name. -/
def equalEntries : List (String × Operand) → List (String × Operand) → Bool
  | [], _ => true
  | (k, a) :: rest, other =>
    (match other.lookup k with
      | some b => equal a b
      | Option.none => false) && equalEntries rest other

end

/-- Whether two operands that do not come from one place are the same item all the same: constants,
small integers and texts and bytes of at most one character exist only once. -/
def isShared : Operand → Operand → Bool
  | .none, .none => true
  | .bool a, .bool b => a == b
  | .ellipsis, .ellipsis => true
  | .int m, .int n => m == n && decide (-5 ≤ m) && decide (m ≤ 256)
  | .text s, .text t => s == t && decide (s.length ≤ 1) && s.toList.all fun c => decide (c.toNat < 256)
  | .bytes s, .bytes t => s == t && decide (s.length ≤ 1)
  | _, _ => false

/-! ## Order -/

mutual

/-- The order of two operands: nothing when the kinds have no order, and no ordering when a NaN is
compared. -/
def order? : Operand → Operand → Option (Option Ordering)
  | .text s, .text t => some (some (compareOfLessAndEq s t))
  | .bytes s, .bytes t => some (some (compareOfLessAndEq s t))
  | .list xs, .list ys => orderLists? xs ys
  | a, b => do return Number.compare? (← a.number?) (← b.number?)

/-- The order of two lists: that of the first items that differ, else that of the lengths. -/
def orderLists? : List Operand → List Operand → Option (Option Ordering)
  | [], [] => some (some .eq)
  | [], _ :: _ => some (some .lt)
  | _ :: _, [] => some (some .gt)
  | a :: as, b :: bs => if equal a b then orderLists? as bs else order? a b

end

/-! ## Membership -/

/-- Whether an operand can be looked up by: lists and objects cannot. -/
def isKey : Operand → Bool
  | .list _ => false
  | .object _ => false
  | _ => true

/-- Whether a run occurs in a longer one. -/
def occurs {α : Type} [BEq α] (run : List α) : List α → Bool
  | [] => run.isEmpty
  | x :: xs => run.isPrefixOf (x :: xs) || occurs run xs

/-- Whether an item is in a container. -/
def isIn (item container : Operand) : Except OperatorFault Bool :=
  match container with
  | .text t =>
    match item with
    | .text s => .ok (occurs s.toList t.toList)
    | _ => .error .kindMismatch
  | .list items => .ok (items.any (equal item ·))
  | .object entries =>
    if !item.isKey then .error .kindMismatch
    else match item with
      | .text s => .ok (entries.lookup s).isSome
      | _ => .ok false
  | .bytes bs =>
    match item with
    | .bytes run => .ok (occurs run bs)
    | item =>
      match item.integer? with
      | some n => if 0 ≤ n ∧ n < 256 then .ok (bs.contains n.toNat) else .error .badValue
      | Option.none => .error .kindMismatch
  | _ => .error .kindMismatch

end Operand

end Helpdesk.Condition
