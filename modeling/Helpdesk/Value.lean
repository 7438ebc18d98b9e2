/-!
# Helpdesk.Value — data whose shape only its author knows.

Message bodies, workflow variables, chunk metadata and stored files hold free-form records. Three
conventions are taken here and kept everywhere:

* an object is a list of entries in the order in which their names were first written; writing a
  name again replaces its value and keeps its place;
* integers are unbounded and are not floats, although `1` and `1.0` compare equal as numbers;
* a value *counts* unless it is null, false, a zero or empty; templates, conditions and defaults
  all ask that one question.
-/
namespace Helpdesk

/-- A free-form record. -/
inductive Value where
  | null
  | bool (b : Bool)
  | int (n : Int)
  | float (x : Float)
  | text (s : String)
  | list (items : List Value)
  | object (entries : List (String × Value))
  deriving Inhabited

/-- The entries of an object. -/
abbrev Entries := List (String × Value)

/-- The kinds of value, under the names that messages to authors use for them. -/
inductive Kind where
  | null | bool | int | float | text | list | object | bytes | complex | ellipsis | range
  deriving DecidableEq

/-- The name of a kind in a message. -/
def Kind.name : Kind → String
  | .null => "NoneType"
  | .bool => "bool"
  | .int => "int"
  | .float => "float"
  | .text => "str"
  | .list => "list"
  | .object => "dict"
  | .bytes => "bytes"
  | .complex => "complex"
  | .ellipsis => "ellipsis"
  | .range => "range"

namespace Entries

/-- The value under a name. -/
def value? (name : String) : Entries → Option Value
  | [] => none
  | (k, v) :: rest => if k = name then some v else value? name rest

/-- Whether a name is present. -/
def has (name : String) (entries : Entries) : Bool :=
  (value? name entries).isSome

/-- Writes a value under a name: in place when the name is present, else at the end. -/
def put (name : String) (v : Value) : Entries → Entries
  | [] => [(name, v)]
  | (k, w) :: rest => if k = name then (k, v) :: rest else (k, w) :: put name v rest

/-- Writes entries one after another; the last value of a name wins. -/
def putAll (entries : Entries) : Entries → Entries
  | [] => entries
  | (k, v) :: rest => putAll (put k v entries) rest

/-- Entries in which each name occurs once, with its last value in its first place. -/
def ofList (entries : List (String × Value)) : Entries :=
  putAll [] entries

/-- The names, in order. -/
def names (entries : Entries) : List String :=
  entries.map Prod.fst

end Entries

namespace Value

/-- What kind of value this is. -/
def kind : Value → Kind
  | .null => .null
  | .bool _ => .bool
  | .int _ => .int
  | .float _ => .float
  | .text _ => .text
  | .list _ => .list
  | .object _ => .object

/-- Whether a value counts: it is not null, false, a zero or empty. -/
def counts : Value → Bool
  | .null => false
  | .bool b => b
  | .int n => n != 0
  | .float x => x != 0.0
  | .text s => s != ""
  | .list items => !items.isEmpty
  | .object entries => !entries.isEmpty

/-- An absent text as null. -/
def ofText? : Option String → Value
  | some s => .text s
  | none => .null

/-- An absent integer as null. -/
def ofInt? : Option Int → Value
  | some n => .int n
  | none => .null

/-- A list of texts. -/
def ofTexts (texts : List String) : Value :=
  .list (texts.map .text)

/-- The entries of an object; nothing for any other value. -/
def entries? : Value → Option Entries
  | .object entries => some entries
  | _ => none

/-- The characters of a text; nothing for any other value. -/
def text? : Value → Option String
  | .text s => some s
  | _ => none

/-- Whether a value is a certain text. -/
def isText (expected : String) : Value → Bool
  | .text s => s = expected
  | _ => false

/-- The entry of an object under a name, null when it is absent or this is no object. -/
def field (name : String) : Value → Value
  | .object entries => (Entries.value? name entries).getD .null
  | _ => .null

end Value

end Helpdesk
