import Helpdesk.Condition.Rewrite
import Helpdesk.Condition.Token
import Helpdesk.Text.Composition

/-!
# Helpdesk.Condition.Parser — from tokens to an expression.

A recursive descent over the tokens, one function for each level of the grammar, loosest first:
choices and functions, `or`, `and`, `not`, comparisons, six levels of arithmetic from bitwise or to
products, signs, powers, look-ups and calls, and atoms. No level ever goes back on a decision, so a
failure at any token is a failure of the condition.

The functions recurse on a budget that bounds the depth of the descent. Each bracket or operator
adds a bounded number of levels, so a multiple of the length of the text is never used up.
-/
namespace Helpdesk.Condition

/-- A step of the descent: it consumes tokens and fails on a syntax error. -/
abbrev Parser := StateT (List Token) Option

namespace Parser

/-- The words that are not names. -/
def keywords : List String := [
  "False", "None", "True", "and", "as", "assert", "async", "await", "break", "class", "continue",
  "def", "del", "elif", "else", "except", "finally", "for", "from", "global", "if", "import", "in",
  "is", "lambda", "nonlocal", "not", "or", "pass", "raise", "return", "try", "while", "with",
  "yield"]

/-- The next token. -/
def peek : Parser (Option Token) := do
  return (← get).head?

/-- Drops the next token. -/
def advance : Parser Unit := do
  set (← get).tail

/-- Whether the next token is a symbol. -/
def atSymbol (s : String) : Parser Bool := do
  match ← peek with
  | some (.symbol t) => return t == s
  | _ => return false

/-- Whether the next token is a keyword. -/
def atWord (s : String) : Parser Bool := do
  match ← peek with
  | some (.word t) => return t == s
  | _ => return false

/-- Consumes a symbol when it is next. -/
def acceptSymbol (s : String) : Parser Bool := do
  if ← atSymbol s then
    advance
    return true
  else return false

/-- Consumes a keyword when it is next. -/
def acceptWord (s : String) : Parser Bool := do
  if ← atWord s then
    advance
    return true
  else return false

/-- Requires a symbol. -/
def expectSymbol (s : String) : Parser Unit := do
  if ← acceptSymbol s then return () else failure

/-- Requires a keyword. -/
def expectWord (s : String) : Parser Unit := do
  if ← acceptWord s then return () else failure

/-- Requires a name. -/
def identifier : Parser String := do
  match ← peek with
  | some (.word s) =>
    if keywords.contains s then failure
    else
      advance
      return Text.compatible s
  | _ => failure

/-- Whether a name followed by a symbol is next. -/
def atNameThen (s : String) : Parser Bool := do
  match ← get with
  | .word w :: .symbol t :: _ => return !keywords.contains w && t == s
  | _ => return false

/-- Repeats a step on an accumulator until it declines; at most once for each token. -/
def iterateUpTo {α : Type} (step : α → Parser (Option α)) : Nat → α → Parser α
  | 0, a => return a
  | n + 1, a => do
    match ← step a with
    | some b => iterateUpTo step n b
    | none => return a

/-- Repeats a step on an accumulator until it declines. -/
def iterate {α : Type} (step : α → Parser (Option α)) (a : α) : Parser α := do
  iterateUpTo step ((← get).length + 1) a

/-- Items separated by a symbol, up to a closing test; a separator may stand before the close. -/
def itemsUntil {α : Type} (separator : String) (closed : Parser Bool) (item : Parser α) :
    Parser (List α) := do
  let (items, _) ← iterate (fun (done : List α × Bool) => do
    if !done.2 || (← closed) then return none
    else
      let a ← item
      let more ← acceptSymbol separator
      return some (done.1 ++ [a], more)) ([], true)
  return items

/-- The operators of a level of arithmetic, loosest level first. -/
def operators : Nat → List (String × BinaryOp)
  | 0 => [("|", .unsupported)]
  | 1 => [("^", .unsupported)]
  | 2 => [("&", .unsupported)]
  | 3 => [("<<", .unsupported), (">>", .unsupported)]
  | 4 => [("+", .add), ("-", .subtract)]
  | _ => [("*", .multiply), ("/", .divide), ("//", .unsupported), ("%", .remainder),
      ("@", .unsupported)]

/-- The level of arithmetic that binds tightest. -/
def lastLevel : Nat := 5

/-- Consumes an operator of a level. -/
def acceptOperator (level : Nat) : Parser (Option BinaryOp) := do
  match ← peek with
  | some (.symbol s) =>
    match (operators level).lookup s with
    | some op =>
      advance
      return some op
    | none => return none
  | _ => return none

/-- The comparisons that a symbol spells. -/
def comparisonSymbols : List (String × Comparison) := [
  ("==", .equal), ("!=", .unequal), ("<", .less), ("<=", .lessEqual), (">", .greater),
  (">=", .greaterEqual)]

/-- Consumes a comparison. -/
def acceptComparison : Parser (Option Comparison) := do
  match ← peek with
  | some (.symbol s) =>
    match comparisonSymbols.lookup s with
    | some op =>
      advance
      return some op
    | none => return none
  | some (.word "in") =>
    advance
    return some .isIn
  | some (.word "not") =>
    advance
    expectWord "in"
    return some .notIn
  | some (.word "is") =>
    advance
    if ← acceptWord "not" then return some .notSame else return some .same
  | _ => return none

/-- The quotations that stand next to each other. -/
def quotations : Parser (List Quotation) :=
  iterate (fun (done : List Quotation) => do
    match ← peek with
    | some (.quotation q) =>
      advance
      return some (done ++ [q])
    | _ => return none) []

/-- One expression from adjacent quotations, given how a field of an interpolated text is read.
Bytes and text do not mix. -/
def joinQuotations (field : List Char → Option Expr) (qs : List Quotation) : Option Expr := do
  if qs.all (·.isBytes) then
    let parts ← qs.mapM (·.bytes?)
    some (.constant (.bytes parts.flatten))
  else if qs.any (·.isBytes) then none
  else if qs.any (·.isInterpolated) then
    let parts ← qs.mapM fun q =>
      if q.isInterpolated then do
        let fields ← q.fields?
        fields.mapM field
      else (q.textOf q.body).map fun _ => []
    some (.unsupported .interpolation parts.flatten)
  else
    let parts ← qs.mapM fun q => q.textOf q.body
    some (.constant (.text (String.join parts)))

/-- Whether an expression can be the variable of a comprehension. -/
def isTarget : Expr → Bool
  | .name _ => true
  | .attribute _ _ => true
  | .subscript _ _ => true
  | .sequence items => areTargets items
  | _ => false
where
  /-- Whether every item can be a variable; an item may be unpacked. -/
  areTargets : List Expr → Bool
    | [] => true
    | .forbidden .unpacking [e] :: rest => isTarget e && areTargets rest
    | e :: rest => isTarget e && areTargets rest

/-- Whether an expression is unpacked. -/
def isUnpacked : Expr → Bool
  | .forbidden .unpacking _ => true
  | _ => false

/-- The parameters read so far. -/
structure Parameters where
  defaults : List Expr
  count : Nat
  hasDefault : Bool
  hasSlash : Bool
  hasStar : Bool
  /-- A bare star still waits for a parameter after it. -/
  starWaits : Bool
  closed : Bool

mutual

/-- Any expression but an assignment or an unpacking. -/
def expression : Nat → Parser Expr
  | 0 => failure
  | fuel + 1 => do
    if ← acceptWord "lambda" then
      let parameters ← lambdaParameters fuel
      expectSymbol ":"
      let body ← expression fuel
      return .forbidden .function (parameters ++ [body])
    else
      let e ← disjunction fuel
      if ← acceptWord "if" then
        let test ← disjunction fuel
        expectWord "else"
        let other ← expression fuel
        return .unsupported .choice [test, e, other]
      else return e

/-- The parameters of a function up to the colon; the expressions are their defaults. -/
def lambdaParameters : Nat → Parser (List Expr)
  | 0 => failure
  | fuel + 1 => do
    let step (ps : Parameters) : Parser (Option Parameters) := do
      if ← atSymbol ":" then return none
      else if ps.closed then failure
      else
        let next ← (do
          if ← acceptSymbol "/" then
            if ps.count = 0 || ps.hasSlash || ps.hasStar then failure
            else return { ps with hasSlash := true }
          else if ← acceptSymbol "**" then
            if ps.starWaits then failure
            else
              let _ ← identifier
              return { ps with closed := true }
          else if ← acceptSymbol "*" then
            if ps.hasStar then failure
            else if ← atSymbol "," then
              return { ps with hasStar := true, starWaits := true }
            else
              let _ ← identifier
              return { ps with hasStar := true }
          else
            let _ ← identifier
            if ← acceptSymbol "=" then
              let e ← expression fuel
              return { ps with
                defaults := ps.defaults ++ [e], count := ps.count + 1, hasDefault := true,
                starWaits := false }
            else if ps.hasDefault && !ps.hasStar then failure
            else return { ps with count := ps.count + 1, starWaits := false })
        if (← acceptSymbol ",") || (← atSymbol ":") then return some next else failure
    let ps ← iterate step ⟨[], 0, false, false, false, false, false⟩
    if ps.starWaits then failure else return ps.defaults

/-- Operands joined by `or`. -/
def disjunction : Nat → Parser Expr
  | 0 => failure
  | fuel + 1 => do
    let first ← conjunction fuel
    let operands ← iterate (fun (done : List Expr) => do
      if ← acceptWord "or" then
        let e ← conjunction fuel
        return some (done ++ [e])
      else return none) [first]
    match operands with
    | [e] => return e
    | es => return .any es

/-- Operands joined by `and`. -/
def conjunction : Nat → Parser Expr
  | 0 => failure
  | fuel + 1 => do
    let first ← inversion fuel
    let operands ← iterate (fun (done : List Expr) => do
      if ← acceptWord "and" then
        let e ← inversion fuel
        return some (done ++ [e])
      else return none) [first]
    match operands with
    | [e] => return e
    | es => return .all es

/-- A negation or a chain of comparisons. -/
def inversion : Nat → Parser Expr
  | 0 => failure
  | fuel + 1 => do
    if ← acceptWord "not" then
      let e ← inversion fuel
      return .unary .not e
    else
      let first ← arithmetic fuel 0
      let rest ← iterate (fun (done : List (Comparison × Expr)) => do
        match ← acceptComparison with
        | some op =>
          let e ← arithmetic fuel 0
          return some (done ++ [(op, e)])
        | none => return none) []
      match rest with
      | [] => return first
      | _ => return .compare first rest

/-- Operators of one level of arithmetic, which group to the left. -/
def arithmetic : Nat → Nat → Parser Expr
  | 0, _ => failure
  | fuel + 1, level => do
    if lastLevel < level then signed fuel
    else
      let first ← arithmetic fuel (level + 1)
      iterate (fun (left : Expr) => do
        match ← acceptOperator level with
        | some op =>
          let right ← arithmetic fuel (level + 1)
          return some (.binary op left right)
        | none => return none) first

/-- A sign or a power; a power binds tighter than a sign on its left. -/
def signed : Nat → Parser Expr
  | 0 => failure
  | fuel + 1 => do
    if ← acceptSymbol "+" then return .unary .plus (← signed fuel)
    else if ← acceptSymbol "-" then return .unary .negate (← signed fuel)
    else if ← acceptSymbol "~" then return .unary .complement (← signed fuel)
    else
      let isAwait ← acceptWord "await"
      let e ← lookups fuel
      let base := if isAwait then .unsupported .await [e] else e
      if ← acceptSymbol "**" then return .binary .unsupported base (← signed fuel)
      else return base

/-- An atom with the look-ups and calls after it. -/
def lookups : Nat → Parser Expr
  | 0 => failure
  | fuel + 1 => do
    let first ← atom fuel
    iterate (fun (e : Expr) => do
      if ← acceptSymbol "." then
        let member ← identifier
        return some (.attribute e member)
      else if ← acceptSymbol "[" then
        let index ← indexes fuel
        expectSymbol "]"
        return some (.subscript e index)
      else if ← acceptSymbol "(" then
        let parts ← arguments fuel
        expectSymbol ")"
        return some (.forbidden .call (e :: parts))
      else return none) first

/-- What stands between index brackets: one index, or several that make a sequence. -/
def indexes : Nat → Parser Expr
  | 0 => failure
  | fuel + 1 => do
    let first ← index fuel
    if ← acceptSymbol "," then
      let rest ← itemsUntil "," (atSymbol "]") (index fuel)
      return .sequence (first :: rest)
    else if isUnpacked first then return .sequence [first]
    else return first

/-- An index, a slice or an unpacked index. -/
def index : Nat → Parser Expr
  | 0 => failure
  | fuel + 1 => do
    if ← acceptSymbol "*" then return .forbidden .unpacking [← expression fuel]
    else
      let assigns ← atNameThen ":="
      let lower ← (do
        if ← atSymbol ":" then return [] else return [← named fuel])
      if !assigns && (← acceptSymbol ":") then
        let upper ← sliceBound fuel
        let step ← (do
          if ← acceptSymbol ":" then sliceBound fuel else return [])
        return .unsupported .slice (lower ++ upper ++ step)
      else match lower with
        | [e] => return e
        | _ => failure

/-- A bound of a slice, which may be left out. -/
def sliceBound : Nat → Parser (List Expr)
  | 0 => failure
  | fuel + 1 => do
    if (← atSymbol ":") || (← atSymbol ",") || (← atSymbol "]") then return []
    else return [← expression fuel]

/-- The arguments of a call: values and unpacked sequences, then also named values, then only named
values and unpacked mappings. A comprehension may stand alone. -/
def arguments : Nat → Parser (List Expr)
  | 0 => failure
  | fuel + 1 => do
    let (parts, _, _) ← iterate (fun (done : List Expr × Nat × Bool) => do
      let (parts, stage, more) := done
      if !more || (← atSymbol ")") then return none
      else
        let (e, stage) ← (do
          if ← acceptSymbol "**" then return (.forbidden .unpacking [← expression fuel], 2)
          else if ← acceptSymbol "*" then
            if stage = 2 then failure
            else return (.forbidden .unpacking [← expression fuel], stage)
          else if ← atNameThen "=" then
            advance
            advance
            return (← expression fuel, max stage 1)
          else if stage = 0 then return (← named fuel, 0)
          else failure)
        if parts.isEmpty && ((← atWord "for") || (← atWord "async")) then
          if isUnpacked e || stage = 1 then failure
          else
            let clauses ← comprehensionClauses fuel
            return some ([.forbidden .comprehension (e :: clauses)], stage, false)
        else
          let more ← acceptSymbol ","
          return some (parts ++ [e], stage, more)) ([], 0, true)
    return parts

/-- An expression or an assignment to a name. -/
def named : Nat → Parser Expr
  | 0 => failure
  | fuel + 1 => do
    if ← atNameThen ":=" then
      let id ← identifier
      advance
      let e ← expression fuel
      return .forbidden .assignment [.name id, e]
    else expression fuel

/-- An item of a display: unpacked, an assignment or an expression. -/
def displayItem : Nat → Parser Expr
  | 0 => failure
  | fuel + 1 => do
    if ← acceptSymbol "*" then return .forbidden .unpacking [← arithmetic fuel 0]
    else named fuel

/-- The clauses of a comprehension: the expressions in them. -/
def comprehensionClauses : Nat → Parser (List Expr)
  | 0 => failure
  | fuel + 1 => do
    let (parts, _) ← iterate (fun (done : List Expr × Bool) => do
      if ← acceptWord "async" then
        expectWord "for"
        return some (done.1 ++ (← comprehensionClause fuel), true)
      else if ← acceptWord "for" then return some (done.1 ++ (← comprehensionClause fuel), true)
      else return none) ([], false)
    return parts

/-- One clause after its `for`: variables, a source and conditions. -/
def comprehensionClause : Nat → Parser (List Expr)
  | 0 => failure
  | fuel + 1 => do
    let targets ← itemsUntil "," (atWord "in") (do
      let isStarred ← acceptSymbol "*"
      let e ← lookups fuel
      if isTarget e then return (if isStarred then .forbidden .unpacking [e] else e)
      else failure)
    if targets.isEmpty then failure
    else
      expectWord "in"
      let source ← disjunction fuel
      let tests ← iterate (fun (done : List Expr) => do
        if ← acceptWord "if" then return some (done ++ [← disjunction fuel])
        else return none) []
      return targets ++ source :: tests

/-- What follows `yield`. -/
def yielded : Nat → Parser Expr
  | 0 => failure
  | fuel + 1 => do
    if ← acceptWord "from" then return .unsupported .yieldFrom [← expression fuel]
    else if ← atSymbol ")" then return .unsupported .yield []
    else
      let items ← itemsUntil "," (atSymbol ")") (do
        if ← acceptSymbol "*" then return .forbidden .unpacking [← arithmetic fuel 0]
        else expression fuel)
      return .unsupported .yield items

/-- What follows an opening parenthesis: a group, a tuple, a comprehension or a `yield`. -/
def parenthesised : Nat → Parser Expr
  | 0 => failure
  | fuel + 1 => do
    if ← acceptSymbol ")" then return .sequence []
    else if ← acceptWord "yield" then
      let e ← yielded fuel
      expectSymbol ")"
      return e
    else
      let first ← displayItem fuel
      if (← atWord "for") || (← atWord "async") then
        if isUnpacked first then failure
        else
          let clauses ← comprehensionClauses fuel
          expectSymbol ")"
          return .forbidden .comprehension (first :: clauses)
      else if ← acceptSymbol "," then
        let rest ← itemsUntil "," (atSymbol ")") (displayItem fuel)
        expectSymbol ")"
        return .sequence (first :: rest)
      else if isUnpacked first then failure
      else
        expectSymbol ")"
        return first

/-- What follows an opening square bracket: a list or a comprehension. -/
def listDisplay : Nat → Parser Expr
  | 0 => failure
  | fuel + 1 => do
    if ← acceptSymbol "]" then return .sequence []
    else
      let first ← displayItem fuel
      if (← atWord "for") || (← atWord "async") then
        if isUnpacked first then failure
        else
          let clauses ← comprehensionClauses fuel
          expectSymbol "]"
          return .forbidden .comprehension (first :: clauses)
      else
        let rest ← (do
          if ← acceptSymbol "," then itemsUntil "," (atSymbol "]") (displayItem fuel)
          else return [])
        expectSymbol "]"
        return .sequence (first :: rest)

/-- An entry of a mapping display: a pair or an unpacked mapping. -/
def mappingEntry : Nat → Parser (List Expr)
  | 0 => failure
  | fuel + 1 => do
    if ← acceptSymbol "**" then return [← arithmetic fuel 0]
    else
      let key ← expression fuel
      expectSymbol ":"
      return [key, ← expression fuel]

/-- What follows an opening brace: a mapping, a set or a comprehension over either. -/
def braceDisplay : Nat → Parser Expr
  | 0 => failure
  | fuel + 1 => do
    if ← acceptSymbol "\x7d" then return .unsupported .mapping []
    else if ← atSymbol "**" then
      let entries ← itemsUntil "," (atSymbol "\x7d") (mappingEntry fuel)
      expectSymbol "\x7d"
      return .unsupported .mapping entries.flatten
    else
      let assigns ← atNameThen ":="
      let first ← displayItem fuel
      if !isUnpacked first && !assigns && (← acceptSymbol ":") then
        let value ← expression fuel
        if (← atWord "for") || (← atWord "async") then
          let clauses ← comprehensionClauses fuel
          expectSymbol "\x7d"
          return .forbidden .comprehension (first :: value :: clauses)
        else
          let entries ← (do
            if ← acceptSymbol "," then itemsUntil "," (atSymbol "\x7d") (mappingEntry fuel)
            else return [])
          expectSymbol "\x7d"
          return .unsupported .mapping (first :: value :: entries.flatten)
      else if (← atWord "for") || (← atWord "async") then
        if isUnpacked first then failure
        else
          let clauses ← comprehensionClauses fuel
          expectSymbol "\x7d"
          return .forbidden .comprehension (first :: clauses)
      else
        let rest ← (do
          if ← acceptSymbol "," then itemsUntil "," (atSymbol "\x7d") (displayItem fuel)
          else return [])
        expectSymbol "\x7d"
        return .unsupported .set (first :: rest)

/-- The expression of a field of an interpolated text, which is read as if in parentheses. -/
def field : Nat → List Char → Option Expr
  | 0, _ => none
  | fuel + 1, cs => do
    let tokens ← tokens? ('(' :: cs ++ [')'])
    let (e, rest) ← (do
      expectSymbol "("
      parenthesised fuel : Parser Expr).run tokens
    if rest.isEmpty then some e else none

/-- A constant, a name, quotations or something in brackets. -/
def atom : Nat → Parser Expr
  | 0 => failure
  | fuel + 1 => do
    match ← peek with
    | some (.number c) =>
      advance
      return .constant c
    | some (.quotation _) =>
      let qs ← quotations
      match joinQuotations (field fuel) qs with
      | some e => return e
      | none => failure
    | some (.word "True") =>
      advance
      return .constant (.bool true)
    | some (.word "False") =>
      advance
      return .constant (.bool false)
    | some (.word "None") =>
      advance
      return .constant .none
    | some (.word _) => return .name (← identifier)
    | some (.symbol "...") =>
      advance
      return .constant .ellipsis
    | some (.symbol "(") =>
      advance
      parenthesised fuel
    | some (.symbol "[") =>
      advance
      listDisplay fuel
    | some (.symbol "\x7b") =>
      advance
      braceDisplay fuel
    | _ => failure

end

/-- A whole condition: one expression, or several with commas between them, which make a sequence. -/
def condition (fuel : Nat) : Parser Expr := do
  let first ← expression fuel
  let e ← (do
    if ← acceptSymbol "," then
      let rest ← itemsUntil "," (do return (← peek).isNone) (expression fuel)
      return .sequence (first :: rest)
    else return first)
  if (← get).isEmpty then return e else failure

end Parser

/-- Why a condition was not accepted. -/
inductive SyntaxFault where
  /-- The text is no expression. -/
  | invalid
  /-- A forbidden form occurs in it. -/
  | disallowed
  deriving DecidableEq

/-- What the author is told about a condition that was not accepted. -/
def SyntaxFault.message (expression : String) : SyntaxFault → String
  | .invalid => "invalid condition: " ++ expression
  | .disallowed => "disallowed syntax in condition: " ++ expression

/-- The expression that a rewritten condition spells; none holds a null character. -/
def expression? (source : String) : Option Expr := do
  let cs := source.toList
  guard !(cs.contains '\x00')
  let tokens ← tokens? cs
  let (e, _) ← (Parser.condition (24 * (cs.length + 4))).run tokens
  some e

/-- Reads a condition. -/
def parse (expression : String) : Except SyntaxFault Expr :=
  match expression? (rewrite expression) with
  | none => .error .invalid
  | some e => if e.hasForbidden then .error .disallowed else .ok e

end Helpdesk.Condition
