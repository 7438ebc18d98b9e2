import Helpdesk.Template.Expr
import Helpdesk.Template.Piece

/-!
# Helpdesk.Template.Node — what a template does.

The pieces of a template form a tree: tags that open a block hold the pieces up to the tag that
closes it. A tag of an unknown name, a block that is not closed, a closing tag without a block and a
mistake in any expression make the whole template unreadable, also where it would never be reached.
-/
namespace Helpdesk.Template

/-- Where a loop starts. -/
inductive Offset where
  | at (position : Operand)
  /-- Behind the last item that the same loop has run through. -/
  | resume

/-- What a loop runs through. -/
structure LoopHead where
  bound : String
  source : Operand
  /-- The variable and the source, which tell this loop from others when it is resumed. -/
  name : String
  limit : Option Operand
  offset : Option Offset
  columns : Option Operand
  reversed : Bool

inductive Node where
  | text (s : String)
  | output (p : Pipeline)
  | assign (name : String) (p : Pipeline)
  | capture (name : String) (body : List Node)
  /-- The body of the first test that comes out as wanted. -/
  | choose (branches : List (Bool × Test × List Node)) (otherwise : List Node)
  /-- Every body that lists the subject; a body without a list stands for "none so far". -/
  | select (subject : Operand) (arms : List (Option (List Operand) × List Node))
  | loop (head : LoopHead) (body otherwise : List Node)
  | table (head : LoopHead) (body : List Node)
  | cycle (group : Option Operand) (items : List Operand)
  /-- Prints a counter of its own; counting down moves it first. -/
  | count (name : String) (up : Bool)
  /-- Prints its body unless it came out the same the last time. -/
  | changed (body : List Node)
  | leave
  | next
  /-- Another template, of which there is none. -/
  | elsewhere
  deriving Inhabited

namespace Node

mutual

/-- Whether a node can print nothing but white space. -/
def isBlank : Node → Bool
  | .text s => Text.isBlankText s
  | .output _ => false
  | .assign _ _ => true
  | .capture _ _ => true
  | .choose branches otherwise => branchesBlank branches && allBlank otherwise
  | .select _ arms => armsBlank arms
  | .loop _ body otherwise => allBlank body && allBlank otherwise
  | .table _ _ => false
  | .cycle _ _ => false
  | .count _ _ => false
  | .changed _ => false
  | .leave => true
  | .next => true
  | .elsewhere => false

/-- Whether several nodes can print nothing but white space. -/
def allBlank : List Node → Bool
  | [] => true
  | n :: rest => isBlank n && allBlank rest

/-- Whether all branches of a choice are blank. -/
def branchesBlank : List (Bool × Test × List Node) → Bool
  | [] => true
  | (_, _, body) :: rest => allBlank body && branchesBlank rest

/-- Whether all arms of a selection are blank. -/
def armsBlank : List (Option (List Operand) × List Node) → Bool
  | [] => true
  | (_, body) :: rest => allBlank body && armsBlank rest

end

/-! ## Reading heads -/

/-- A loop's settings after its source. -/
def loopSettings : Nat → LoopHead → Reader LoopHead
  | 0, _ => failure
  | fuel + 1, head => do
    if ← Reader.acceptSymbol "," then loopSettings fuel head
    else if (← get).isEmpty then return head
    else
      let word ← Reader.anyWord
      if word = "reversed" then loopSettings fuel { head with reversed := true }
      else
        Reader.expectSymbol ":"
        if word = "limit" then
          loopSettings fuel { head with limit := some (← Reader.operand fuel) }
        else if word = "cols" then
          loopSettings fuel { head with columns := some (← Reader.operand fuel) }
        else if word = "offset" then
          if ← Reader.acceptWord "continue" then
            loopSettings fuel { head with offset := some .resume }
          else loopSettings fuel { head with offset := some (.at (← Reader.operand fuel)) }
        else failure

/-- The head of a loop. -/
def loopHead (fuel : Nat) : Reader LoopHead := do
  let bound ← Reader.anyWord
  if ← Reader.acceptWord "in" then
    let source ← Reader.operand fuel
    loopSettings fuel ⟨bound, source, bound ++ "-" ++ source.spelling, none, none, none, false⟩
  else failure

/-- Operands separated by commas or `or`. -/
def alternatives : Nat → Reader (List Operand)
  | 0 => failure
  | fuel + 1 => do
    let first ← Reader.operand fuel
    if ← Reader.acceptSymbol "," then return first :: (← alternatives fuel)
    else if ← Reader.acceptWord "or" then return first :: (← alternatives fuel)
    else return [first]

/-- Operands separated by commas, a comma at the end allowed. -/
def operands : Nat → Reader (List Operand)
  | 0 => failure
  | fuel + 1 => do
    let first ← Reader.operand fuel
    if ← Reader.acceptSymbol "," then
      if (← get).isEmpty then return [first] else return first :: (← operands fuel)
    else return [first]

/-- The group and the items of a cycle. -/
def cycleHead (fuel : Nat) : Reader Node := do
  match ← operands fuel with
  | [group] =>
    if ← Reader.acceptSymbol ":" then return .cycle (some group) (← operands fuel)
    else return .cycle none [group]
  | items => return .cycle none items

/-- The name and the pipeline of an assignment. -/
def assignment (fuel : Nat) : Reader Node := do
  let name ← Reader.anyWord
  Reader.expectSymbol "="
  return .assign name (← Reader.pipeline fuel)

/-- A name, which may be quoted. -/
def nameOrText (_ : Nat) : Reader String := do
  match ← Reader.peek with
  | some (.string s) =>
    Reader.advance
    return s
  | _ => Reader.anyWord

/-! ## Reading blocks -/

/-- The tags that end a part of a block without opening one. -/
def isInner (name : String) : Bool :=
  name == "else" || name == "elsif" || name == "when" || name.startsWith "end"

/-- The pieces after the tag that closes a block whose inside is not read. -/
def skipBlock (start stop : String) : Nat → List Piece → Option (List Piece)
  | _, [] => none
  | depth, .tag name _ :: rest =>
    if name = stop then if depth = 0 then some rest else skipBlock start stop (depth - 1) rest
    else skipBlock start stop (if name = start then depth + 1 else depth) rest
  | depth, _ :: rest => skipBlock start stop depth rest

/-- The tags that are written one a line. -/
def linePieces (expression : String) : List Piece :=
  (expression.toList.splitOnP (· == '\n')).filterMap fun line =>
    let line := Text.trimChars line
    if line.isEmpty then none
    else
      let (name, expression) := Piece.splitTag line
      some (.tag (String.ofList name) (String.ofList expression))

/-- Whether every line of a comment after the first is marked as one. -/
def isComment (expression : String) : Bool :=
  ((expression.toList.splitOnP (· == '\n')).drop 1).all fun line =>
    match Text.trimChars line with
    | [] => true
    | c :: _ => c == '#'

/-- A tag that opens no block, with the mistakes in its expression as failures; nothing when the tag
is none of these. -/
def single? (name expression : String) : Option (Option (List Node)) :=
  let one := fun (n : Option Node) => some (n.map ([·]))
  match name with
  | "assign" => one (Reader.run? assignment expression)
  | "echo" => one ((Reader.run? Reader.pipeline expression).map .output)
  | "cycle" => one (Reader.run? cycleHead expression)
  | "increment" => one ((Reader.run? nameOrText expression).map (.count · true))
  | "decrement" => one ((Reader.run? nameOrText expression).map (.count · false))
  | "break" => one (some .leave)
  | "continue" => one (some .next)
  | "include" => one (if expression.isEmpty then none else some .elsewhere)
  | "render" => one (if expression.isEmpty then none else some .elsewhere)
  | "#" => some (if isComment expression then some [] else none)
  | _ => none

mutual

/-- The nodes up to a tag that ends this part of a block, or up to the end. -/
def readNodes : Nat → List Piece → Option (List Node × List Piece)
  | 0, _ => none
  | _ + 1, [] => some ([], [])
  | fuel + 1, .text s :: rest => do
    let (nodes, rest) ← readNodes fuel rest
    return (.text s :: nodes, rest)
  | fuel + 1, .output expression :: rest => do
    let p ← Reader.run? Reader.pipeline expression
    let (nodes, rest) ← readNodes fuel rest
    return (.output p :: nodes, rest)
  | fuel + 1, .tag name expression :: rest =>
    if isInner name then some ([], .tag name expression :: rest)
    else do
      let (first, rest) ← readTag fuel name expression rest
      let (nodes, rest) ← readNodes fuel rest
      return (first ++ nodes, rest)

/-- The nodes of one tag and its block. -/
def readTag : Nat → String → String → List Piece → Option (List Node × List Piece)
  | 0, _, _, _ => none
  | fuel + 1, name, expression, rest =>
    match single? name expression with
    | some nodes => do return (← nodes, rest)
    | none =>
      match name with
      | "if" => readChoice fuel true "endif" expression rest
      | "unless" => readChoice fuel false "endunless" expression rest
      | "case" => do
        let subject ← Reader.run? Reader.operand expression
        let (arms, rest) ← readArms fuel rest
        return ([.select subject arms], rest)
      | "for" => do
        let head ← Reader.run? loopHead expression
        let (body, rest) ← readNodes fuel rest
        match rest with
        | .tag "endfor" _ :: rest => return ([.loop head body []], rest)
        | .tag "else" _ :: rest =>
          let (otherwise, rest) ← readClosed fuel "endfor" rest
          return ([.loop head body otherwise], rest)
        | _ => none
      | "tablerow" => do
        let head ← Reader.run? loopHead expression
        let (body, rest) ← readClosed fuel "endtablerow" rest
        return ([.table head body], rest)
      | "capture" => do
        let bound ← Reader.run? nameOrText expression
        let (body, rest) ← readClosed fuel "endcapture" rest
        return ([.capture bound body], rest)
      | "ifchanged" => do
        let (body, rest) ← readClosed fuel "endifchanged" rest
        return ([.changed body], rest)
      | "comment" => do return ([], ← skipBlock "comment" "endcomment" 0 rest)
      | "doc" => do return ([], ← skipBlock "" "enddoc" 0 rest)
      | "liquid" => do
        let (nodes, left) ← readNodes fuel (linePieces expression)
        if left.isEmpty then return (nodes, rest) else none
      | _ => none

/-- The nodes of a block up to its closing tag. -/
def readClosed : Nat → String → List Piece → Option (List Node × List Piece)
  | 0, _, _ => none
  | fuel + 1, close, pieces => do
    let (body, rest) ← readNodes fuel pieces
    match rest with
    | .tag name _ :: rest => if name = close then return (body, rest) else none
    | _ => none

/-- The branches of a choice after its first test. -/
def readChoice : Nat → Bool → String → String → List Piece → Option (List Node × List Piece)
  | 0, _, _, _, _ => none
  | fuel + 1, wanted, close, expression, rest => do
    let test ← Reader.run? Reader.test expression
    let (body, rest) ← readNodes fuel rest
    let (branches, otherwise, rest) ← readBranches fuel close rest
    return ([.choose ((wanted, test, body) :: branches) otherwise], rest)

/-- The further branches of a choice; what follows its `else` is read and left out. -/
def readBranches : Nat → String → List Piece →
    Option (List (Bool × Test × List Node) × List Node × List Piece)
  | 0, _, _ => none
  | fuel + 1, close, pieces =>
    match pieces with
    | .tag "elsif" expression :: rest => do
      let test ← Reader.run? Reader.test expression
      let (body, rest) ← readNodes fuel rest
      let (branches, otherwise, rest) ← readBranches fuel close rest
      return ((true, test, body) :: branches, otherwise, rest)
    | .tag "else" _ :: rest => do
      let (otherwise, rest) ← readNodes fuel rest
      return ([], otherwise, ← skipBranches fuel close rest)
    | .tag name _ :: rest => if name = close then some ([], [], rest) else none
    | _ => none

/-- Drops the branches after an `else`. -/
def skipBranches : Nat → String → List Piece → Option (List Piece)
  | 0, _, _ => none
  | fuel + 1, close, pieces =>
    match pieces with
    | .tag name _ :: rest =>
      if name = close then some rest
      else if name = "else" ∨ name = "elsif" then do
        let (_, rest) ← readNodes fuel rest
        skipBranches fuel close rest
      else none
    | _ => none

/-- The arms of a selection; what stands before the first one is left out. -/
def readArms : Nat → List Piece →
    Option (List (Option (List Operand) × List Node) × List Piece)
  | 0, _ => none
  | fuel + 1, pieces =>
    match pieces with
    | .tag "when" expression :: rest => do
      let items ← Reader.run? alternatives expression
      let (body, rest) ← readNodes fuel rest
      let (arms, rest) ← readArms fuel rest
      return ((some items, body) :: arms, rest)
    | .tag "else" _ :: rest => do
      let (body, rest) ← readNodes fuel rest
      let (arms, rest) ← readArms fuel rest
      return ((none, body) :: arms, rest)
    | .tag "endcase" _ :: rest => some ([], rest)
    | .tag _ _ :: _ => none
    | _ :: rest => readArms fuel rest
    | [] => none

end

/-- The size of a template, as the number of characters that its tags and outputs can hold. -/
def fuelFor (s : String) : Nat :=
  8 * s.length + 8

/-- Reads a template. -/
def ofText? (s : String) : Option (List Node) := do
  let pieces ← Piece.ofText? s
  let (nodes, rest) ← readNodes (fuelFor s) pieces
  if rest.isEmpty then some nodes else none

end Node

end Helpdesk.Template
