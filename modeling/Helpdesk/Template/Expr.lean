import Helpdesk.Template.Token
import Helpdesk.Value.Literal

/-!
# Helpdesk.Template.Expr — the expressions inside prompt templates.

There are three layers. An *operand* is a constant, a path of look-ups or a range. A *pipeline* is
an operand sent through filters. A *test* joins comparisons of operands by `and` and `or`, which
bind alike and group to the right.
-/
namespace Helpdesk.Template

mutual

inductive Operand where
  | null
  | bool (b : Bool)
  | int (n : Int)
  | float (x : Float)
  | text (s : String)
  | empty
  | blank
  /-- A name followed by steps into what it is bound to; the name may be looked up itself. -/
  | path (root : Step) (steps : List Step)
  | range (first last : Operand)

inductive Step where
  | named (name : String)
  | position (n : Int)
  /-- The name or position is the item at another path. -/
  | computed (path : Operand)

end

instance : Inhabited Operand := ⟨.null⟩

/-- Whether a name can stand in a path after a point. -/
def isPlainName (name : String) : Bool :=
  match name.toList with
  | [] => false
  | c :: rest => Token.startsWord c && rest.all Token.continuesWord

mutual

/-- The one way to write an operand. -/
def Operand.spelling : Operand → String
  | .null => "nil"
  | .bool b => if b then "true" else "false"
  | .int n => decimal n
  | .float x => literalFloats.write x
  | .text s => Text.quoted s
  | .empty => "empty"
  | .blank => "blank"
  | .path root steps => Step.rootSpelling root ++ Step.spellings steps
  | .range first last => "(" ++ Operand.spelling first ++ ".." ++ Operand.spelling last ++ ")"

/-- The one way to write the start of a path. -/
def Step.rootSpelling : Step → String
  | .named name => name
  | .position n => decimal n
  | .computed path => "[" ++ Operand.spelling path ++ "]"

/-- The one way to write the steps of a path. -/
def Step.spellings : List Step → String
  | [] => ""
  | .named name :: rest =>
    (if isPlainName name then "." ++ name else "[" ++ Text.quoted name ++ "]") ++
      Step.spellings rest
  | .position n :: rest => "[" ++ decimal n ++ "]" ++ Step.spellings rest
  | .computed path :: rest => "[" ++ Operand.spelling path ++ "]" ++ Step.spellings rest

end

/-- An argument of a filter. -/
structure Argument where
  name : Option String
  operand : Operand

/-- A filter with its arguments. -/
structure FilterCall where
  filter : String
  arguments : List Argument

/-- An operand sent through filters. -/
structure Pipeline where
  operand : Operand
  filters : List FilterCall

inductive Relation where
  | equal | unequal | less | lessEqual | greater | greaterEqual | contains
  deriving DecidableEq

inductive Test where
  | operand (a : Operand)
  | compare (relation : Relation) (left right : Test)
  | all (left right : Test)
  | any (left right : Test)
  deriving Inhabited

/-! ## Reading -/

/-- A step of the reader: it consumes tokens and fails on a mistake. -/
abbrev Reader := StateT (List Token) Option

namespace Reader

/-- The next token. -/
def peek : Reader (Option Token) := do
  return (← get).head?

/-- Drops the next token. -/
def advance : Reader Unit := do
  set (← get).tail

/-- Consumes a symbol when it is next. -/
def acceptSymbol (s : String) : Reader Bool := do
  match ← peek with
  | some (.symbol t) =>
    if t = s then
      advance
      return true
    else return false
  | _ => return false

/-- Requires a symbol. -/
def expectSymbol (s : String) : Reader Unit := do
  if ← acceptSymbol s then return () else failure

/-- Consumes a word when it is next. -/
def acceptWord (s : String) : Reader Bool := do
  match ← peek with
  | some (.word t) =>
    if t = s then
      advance
      return true
    else return false
  | _ => return false

/-- Requires a word of any kind. -/
def anyWord : Reader String := do
  match ← peek with
  | some (.word s) =>
    advance
    return s
  | _ => failure

/-- Requires the end of the expression. -/
def atEnd : Reader Unit := do
  if (← get).isEmpty then return () else failure

/-- Whether the next token starts an operand. -/
def startsOperand : Reader Bool := do
  match ← peek with
  | some (.symbol s) => return s == "(" || s == "["
  | some _ => return true
  | none => return false

/-- The words that stand for constants. -/
def constant? : String → Option Operand
  | "true" => some (.bool true)
  | "false" => some (.bool false)
  | "nil" => some .null
  | "null" => some .null
  | "empty" => some .empty
  | "blank" => some .blank
  | _ => none

/-- The words that no path starts with. -/
def reserved : List String := ["and", "or", "contains", "not", "if", "else"]

mutual

/-- An operand. The fuel bounds the nesting of brackets. -/
def operand : Nat → Reader Operand
  | 0 => failure
  | fuel + 1 => do
    match ← peek with
    | some (.int n) =>
      advance
      return .int n
    | some (.float x) =>
      advance
      return .float x
    | some (.string s) =>
      advance
      return .text s
    | some (.word w) =>
      if reserved.contains w then failure
      else
        advance
        match constant? w with
        | some c => return c
        | none => return .path (.named w) (← steps fuel)
    | some (.symbol "[") =>
      advance
      let root ← bracketed fuel
      return .path root (← steps fuel)
    | some (.symbol "(") =>
      advance
      let first ← operand fuel
      expectSymbol ".."
      let last ← operand fuel
      expectSymbol ")"
      return .range first last
    | _ => failure

/-- The steps of a path after its root. -/
def steps : Nat → Reader (List Step)
  | 0 => failure
  | fuel + 1 => do
    if ← acceptSymbol "." then
      let name ← anyWord
      return .named name :: (← steps fuel)
    else if ← acceptSymbol "[" then
      let step ← bracketed fuel
      return step :: (← steps fuel)
    else return []

/-- What stands in brackets, and the closing bracket. -/
def bracketed : Nat → Reader Step
  | 0 => failure
  | fuel + 1 => do
    match ← peek with
    | some (.int n) =>
      advance
      expectSymbol "]"
      return .position n
    | some (.string s) =>
      advance
      expectSymbol "]"
      return .named s
    | some (.word _) =>
      let path ← operand fuel
      expectSymbol "]"
      return .computed path
    | _ => failure

end

/-- The arguments of a filter; commas between them are optional. -/
def arguments : Nat → Reader (List Argument)
  | 0 => failure
  | fuel + 1 => do
    if ← acceptSymbol "," then arguments fuel
    else if ← startsOperand then
      let argument ← (do
        match ← get with
        | .word name :: .symbol ":" :: _ =>
          advance
          advance
          return ⟨some name, ← operand fuel⟩
        | _ => return ⟨none, ← operand fuel⟩ : Reader Argument)
      return argument :: (← arguments fuel)
    else return []

/-- The filters of a pipeline. -/
def filters : Nat → Reader (List FilterCall)
  | 0 => failure
  | fuel + 1 => do
    if ← acceptSymbol "|" then
      let filter ← anyWord
      let given ← (do if ← acceptSymbol ":" then arguments fuel else return [] : Reader (List Argument))
      return ⟨filter, given⟩ :: (← filters fuel)
    else return []

/-- A pipeline. -/
def pipeline (fuel : Nat) : Reader Pipeline := do
  return ⟨← operand fuel, ← filters fuel⟩

/-- The relation that a symbol stands for. -/
def relation? : String → Option Relation
  | "==" => some .equal
  | "!=" => some .unequal
  | "<>" => some .unequal
  | "<" => some .less
  | "<=" => some .lessEqual
  | ">" => some .greater
  | ">=" => some .greaterEqual
  | _ => none

/-- Operands joined by `contains`, which binds tightest. -/
def membership : Nat → Reader Test
  | 0 => failure
  | fuel + 1 => do
    let left ← operand fuel
    if ← acceptWord "contains" then return .compare .contains (.operand left) (← membership fuel)
    else return .operand left

/-- A chain of comparisons, grouped to the right. -/
def comparison : Nat → Reader Test
  | 0 => failure
  | fuel + 1 => do
    let left ← membership fuel
    match ← peek with
    | some (.symbol s) =>
      match relation? s with
      | some relation =>
        advance
        return .compare relation left (← comparison fuel)
      | none => return left
    | _ => return left

/-- Comparisons joined by `and` and `or`, grouped to the right. -/
def test : Nat → Reader Test
  | 0 => failure
  | fuel + 1 => do
    let left ← comparison fuel
    if ← acceptWord "and" then return .all left (← test fuel)
    else if ← acceptWord "or" then return .any left (← test fuel)
    else return left

/-- Reads a whole text. -/
def run? {α : Type} (reader : Nat → Reader α) (s : String) : Option α := do
  let tokens ← Token.ofText? s
  let (a, rest) ← (reader (4 * tokens.length + 8)).run tokens
  if rest.isEmpty then some a else none

end Reader

end Helpdesk.Template
