import Helpdesk.Condition.Numeral
import Helpdesk.Condition.Quotation
import Helpdesk.Text.Identifier

/-!
# Helpdesk.Condition.Token — the words, numbers, quotations and symbols of a condition.

Blanks, comments and line ends inside brackets separate tokens and are dropped; a backslash joins
two lines. A condition is one logical line: after the line end that closes it only comments and
empty lines may follow, and it must not be indented. Symbols are read as long as possible.
-/
namespace Helpdesk.Condition

inductive Token where
  /-- A name or a keyword. -/
  | word (s : String)
  | number (c : Constant)
  | quotation (q : Quotation)
  | symbol (s : String)

/-- The symbols, longer ones before their beginnings. -/
def symbols : List String := [
  "**=", "//=", "<<=", ">>=", "...",
  "!=", "%=", "&=", "**", "*=", "+=", "-=", "->", "//", "/=", ":=", "<<", "<=", "<>", "==", ">=",
  ">>", "@=", "^=", "|=",
  "(", ")", "[", "]", "\x7b", "\x7d", "+", "-", "*", "/", "%", "@", "&", "|", "^", "~", "<", ">",
  "=", ".", ",", ":", ";"]

/-- The kind of quotation that a run of letters before a quote announces. -/
def quotationKind? (letters : List Char) : Option (Bool × Bool × Bool) :=
  match (letters.map Char.toLower) with
  | [] => some (false, false, false)
  | ['u'] => some (false, false, false)
  | ['b'] => some (true, false, false)
  | ['r'] => some (false, true, false)
  | ['f'] => some (false, false, true)
  | ['b', 'r'] => some (true, true, false)
  | ['r', 'b'] => some (true, true, false)
  | ['f', 'r'] => some (false, true, true)
  | ['r', 'f'] => some (false, true, true)
  | _ => none

/-- The body of a quotation after its opening quote and the text after its closing one. A backslash
takes the next character with it. -/
def quotationBody (quote : Char) (tripled : Bool) : List Char → Option (List Char × List Char)
  | [] => none
  | '\\' :: c :: rest =>
    (quotationBody quote tripled rest).map fun (body, after) => ('\\' :: c :: body, after)
  | c :: rest =>
    if c = quote ∧ !tripled then some ([], rest)
    else if c = quote ∧ [quote, quote].isPrefixOf rest then some ([], rest.drop 2)
    else if c = '\\' ∨ (c = '\n' ∧ !tripled) then none
    else (quotationBody quote tripled rest).map fun (body, after) => (c :: body, after)

/-- A quotation whose opening quote stands at the front. -/
def readQuotation (kind : Bool × Bool × Bool) (quote : Char) (rest : List Char) :
    Option (Token × List Char) := do
  let tripled := [quote, quote].isPrefixOf rest
  let (body, after) ← quotationBody quote tripled (if tripled then rest.drop 2 else rest)
  some (.quotation ⟨kind.1, kind.2.1, kind.2.2, body⟩, after)

/-- A word, or a quotation that letters announce. -/
def readWord (cs : List Char) : Option (Token × List Char) :=
  let word := cs.takeWhile runsOn
  let rest := cs.drop word.length
  let isAnnounced := word.length ≤ 2 && (quotationKind? word).isSome
  match rest with
  | c :: after =>
    if isAnnounced && (c == '\'' || c == '"') then
      (quotationKind? word).bind fun kind => readQuotation kind c after
    else if Text.isName word then some (.word (String.ofList word), rest) else none
  | [] => if Text.isName word then some (.word (String.ofList word), rest) else none

/-- A symbol at the front of the text. -/
def readSymbol (cs : List Char) : Option (Token × List Char) :=
  (symbols.find? fun s => s.toList.isPrefixOf cs).map fun s => (.symbol s, cs.drop s.length)

/-- One token at the front of the text. -/
def readToken (cs : List Char) : Option (Token × List Char) :=
  match cs with
  | [] => none
  | c :: rest =>
    if c = '\'' ∨ c = '"' then readQuotation (false, false, false) c rest
    else if c.isDigit || (c == '.' && (rest.head?.map Char.isDigit).getD false) then
      (readNumber cs).map fun (n, r) => (.number n, r)
    else if runsOn c then readWord cs
    else readSymbol cs

/-- The open brackets after a token, innermost first; nothing when it closes the wrong one or nests
too deep. -/
def bracketsAfter (brackets : List Char) : Token → Option (List Char)
  | .symbol s =>
    match s.toList with
    | [c] =>
      if isOpening c then
        if maxBrackets ≤ brackets.length then none else some (c :: brackets)
      else if isClosing c then
        match brackets with
        | opening :: outer => if closes opening c then some outer else none
        | [] => none
      else some brackets
    | _ => some brackets
  | _ => some brackets

/-- Whether a blank separates tokens within a line. -/
def isSeparator (c : Char) : Bool :=
  c == ' ' || c == '\t' || c.toNat == 12

/-- Where the scanner stands. -/
inductive Place where
  /-- At the start of a line, after so many columns of indentation. -/
  | lineStart (columns : Nat)
  | inLine
  deriving DecidableEq

/-- The tokens of a text. `ended` tells that the logical line is closed. -/
def scan : Nat → Place → Bool → List Char → List Char → Option (List Token)
  | 0, _, _, _, _ => none
  | _ + 1, _, _, brackets, [] => if brackets.isEmpty then some [] else none
  | fuel + 1, place, ended, brackets, c :: rest =>
    if isSeparator c then
      match place with
      | .lineStart columns =>
        scan fuel (.lineStart (if c.toNat = 12 then 0 else columns + 1)) ended brackets rest
      | .inLine => scan fuel .inLine ended brackets rest
    else if c = '#' then
      scan fuel place ended brackets (rest.dropWhile (· != '\n'))
    else if c = '\n' then
      let blank := place ≠ .inLine || !brackets.isEmpty
      scan fuel (.lineStart 0) (ended || !blank) brackets rest
    else if c = '\\' then
      match rest with
      | '\n' :: d :: more => scan fuel place ended brackets (d :: more)
      | _ => none
    else
      let indented := match place with
        | .lineStart columns => brackets.isEmpty && decide (0 < columns)
        | .inLine => false
      if indented || ended then none
      else do
        let (token, after) ← readToken (c :: rest)
        let brackets ← bracketsAfter brackets token
        let tokens ← scan fuel .inLine ended brackets after
        some (token :: tokens)

/-- Line ends in one spelling. -/
def unifyLineEnds : List Char → List Char
  | [] => []
  | '\r' :: '\n' :: rest => '\n' :: unifyLineEnds rest
  | '\r' :: rest => '\n' :: unifyLineEnds rest
  | c :: rest => c :: unifyLineEnds rest

/-- The tokens of a condition, if it has any reading. -/
def tokens? (cs : List Char) : Option (List Token) :=
  scan (cs.length + 1) (.lineStart 0) false [] (unifyLineEnds cs)

end Helpdesk.Condition
