import Helpdesk.Value.Literal

/-!
# Helpdesk.Json.Writer — values as JSON text.

Characters beyond ASCII stand for themselves; only the quote, the backslash and the controls below
the space are escaped, the common ones by a letter. Items are separated by a comma and a space and
names are followed by a colon and a space. Objects keep their order.
-/
namespace Helpdesk.Json

/-- Floats in JSON text. -/
def floats : Decimal.Layout :=
  ⟨-3, 16, "Infinity", "-Infinity", "NaN"⟩

/-- One character inside a JSON string. -/
def writeChar (c : Char) : List Char :=
  if c = '"' then ['\\', '"']
  else if c = '\\' then ['\\', '\\']
  else if c = '\n' then ['\\', 'n']
  else if c = '\r' then ['\\', 'r']
  else if c = '\t' then ['\\', 't']
  else if c.toNat = 8 then ['\\', 'b']
  else if c.toNat = 12 then ['\\', 'f']
  else if c.toNat < 32 then '\\' :: 'u' :: Text.hexDigits 4 c.toNat
  else [c]

/-- A JSON string. -/
def writeText (s : String) : List Char :=
  '"' :: s.toList.flatMap writeChar ++ ['"']

mutual

/-- The JSON text of a value. -/
def writeChars : Value → List Char
  | .null => ['n', 'u', 'l', 'l']
  | .bool true => ['t', 'r', 'u', 'e']
  | .bool false => ['f', 'a', 'l', 's', 'e']
  | .int n => (decimal n).toList
  | .float x => (floats.write x).toList
  | .text s => writeText s
  | .list [] => ['[', ']']
  | .list (v :: rest) => '[' :: writeChars v ++ writeItems rest
  | .object [] => ['{', '}']
  | .object ((k, v) :: rest) => '{' :: writeText k ++ [':', ' '] ++ writeChars v ++ writeEntries rest

/-- The items after the first, and the closing bracket. -/
def writeItems : List Value → List Char
  | [] => [']']
  | v :: rest => [',', ' '] ++ writeChars v ++ writeItems rest

/-- The entries after the first, and the closing brace. -/
def writeEntries : List (String × Value) → List Char
  | [] => ['}']
  | (k, v) :: rest => [',', ' '] ++ writeText k ++ [':', ' '] ++ writeChars v ++ writeEntries rest

end

/-- The JSON text of a value. -/
def write (v : Value) : String :=
  String.ofList (writeChars v)

end Helpdesk.Json
