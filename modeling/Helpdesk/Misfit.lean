import Helpdesk.Decimal.Binary
import Helpdesk.Decimal.Spelled
import Helpdesk.Value.Literal

/-!
# Helpdesk.Misfit — free-form values that are not what the work on them needs.

Message bodies, ticket descriptions and stored files may hold anything. Reading them is lenient: a
part that is missing or unknown is passed over. What cannot be passed over is a value of the wrong
kind in a place where something is done with it; that is a misfit, and it ends the reading.
-/
namespace Helpdesk

inductive Misfit where
  /-- A record was needed and a value of this kind was found. -/
  | noMember (kind : Kind) (member : String)
  /-- A sequence was needed. -/
  | notIterable (kind : Kind)
  /-- A text was needed at this position of a list of texts. -/
  | notText (position : Nat) (kind : Kind)
  /-- A text was needed behind another text. -/
  | notAppendable (kind : Kind)
  /-- An integer was needed. -/
  | notInteger (kind : Kind)
  /-- An integer was needed and the text spells none. -/
  | unreadableInteger (text : String)
  | infiniteInteger
  | undefinedInteger
  /-- An integer has too many digits to be spelled. -/
  | hugeInteger
  /-- A text was to be repeated more often than texts can be long. -/
  | hugeCount
  /-- An entry of this name was needed. -/
  | missingEntry (name : String)
  /-- A value was needed that can be looked up by. -/
  | notKey (kind : Kind)
  /-- Something with a length was needed. -/
  | noLength (kind : Kind)
  /-- Something that can hold a name was needed. -/
  | notSearchable (kind : Kind)
  /-- Something that can be written to under a name was needed. -/
  | notWritable (kind : Kind)
  /-- A text in JSON was needed. -/
  | notJsonText (kind : Kind)
  /-- Something that is looked into by name was needed, and this is looked into by position. -/
  | notPosition (kind : Kind)
  /-- Something that can be looked into was needed. -/
  | notSubscriptable (kind : Kind)
  /-- A sequence of two parts was needed. -/
  | notPair
  deriving DecidableEq

namespace Misfit

/-- What is said about a misfit. -/
def message : Misfit → String
  | noMember kind member => "'" ++ kind.name ++ "' object has no attribute '" ++ member ++ "'"
  | notIterable kind => "'" ++ kind.name ++ "' object is not iterable"
  | notText position kind =>
    "sequence item " ++ decimal position ++ ": expected str instance, " ++ kind.name ++ " found"
  | notAppendable kind => "can only concatenate str (not \"" ++ kind.name ++ "\") to str"
  | notInteger kind =>
    "int() argument must be a string, a bytes-like object or a real number, not '" ++ kind.name ++
      "'"
  | unreadableInteger text => "invalid literal for int() with base 10: " ++ Text.quoted text
  | infiniteInteger => "cannot convert float infinity to integer"
  | undefinedInteger => "cannot convert float NaN to integer"
  | hugeInteger => "Exceeds the limit (" ++ decimal Decimal.maxSpelledDigits ++
      " digits) for integer string conversion"
  | hugeCount => "cannot fit 'int' into an index-sized integer"
  | missingEntry name => Text.quoted name
  | notKey kind => "unhashable type: '" ++ kind.name ++ "'"
  | noLength kind => "object of type '" ++ kind.name ++ "' has no len()"
  | notSearchable kind => "argument of type '" ++ kind.name ++ "' is not iterable"
  | notWritable kind => "'" ++ kind.name ++ "' object does not support item assignment"
  | notJsonText kind =>
    "the JSON object must be str, bytes or bytearray, not " ++ kind.name
  | notPosition .text => "string indices must be integers, not 'str'"
  | notPosition _ => "list indices must be integers or slices, not str"
  | notSubscriptable kind => "'" ++ kind.name ++ "' object is not subscriptable"
  | notPair => "dictionary update sequence element #0 has a wrong length; 2 is required"

end Misfit

namespace Value

/-- A value, or another one in its place when it does not count. -/
def orElse (v other : Value) : Value :=
  if v.counts then v else other

/-- The entry of a record under a name, null when it is absent. A value that does not count stands
for an empty record. -/
def member (name : String) (v : Value) : Except Misfit Value :=
  match v with
  | .object entries => .ok ((Entries.value? name entries).getD .null)
  | v => if v.counts then .error (.noMember v.kind "get") else .ok .null

/-- The items of a list, the characters of a text, or the names of a record. -/
def elements : Value → Except Misfit (List Value)
  | .list items => .ok items
  | .text s => .ok (s.toList.map fun c => .text (String.singleton c))
  | .object entries => .ok (entries.map fun (name, _) => .text name)
  | v => .error (.notIterable v.kind)

/-- The integer part of a number, or the integer that a text spells. -/
def toInteger : Value → Except Misfit Int
  | .int n => .ok n
  | .bool b => .ok (if b then 1 else 0)
  | .float x =>
    match Decimal.Binary.ofFloat? x with
    | some b => .ok b.truncated
    | none => .error (if x == x then .infiniteInteger else .undefinedInteger)
  | .text s => (Decimal.spelledInt? s).elim (.error (.unreadableInteger s)) .ok
  | v => .error (.notInteger v.kind)

end Value

namespace Text

/-- A part of a text that is put together from values: a text, or the kind of something else. -/
inductive Piece where
  | text (s : String)
  | other (kind : Kind)

/-- A value as a piece. -/
def Piece.ofValue : Value → Piece
  | .text s => .text s
  | v => .other v.kind

/-- The texts of pieces that are all texts, where `position` is the position of the first. -/
def Piece.textsFrom (position : Nat) : List Piece → Except Misfit (List String)
  | [] => .ok []
  | .text s :: rest => (Piece.textsFrom (position + 1) rest).map (s :: ·)
  | .other kind :: _ => .error (.notText position kind)

/-- Pieces one after another. -/
def joinPieces (separator : String) (pieces : List Piece) : Except Misfit String :=
  (Piece.textsFrom 0 pieces).map (join separator)

end Text

end Helpdesk
