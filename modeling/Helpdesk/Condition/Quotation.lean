import Helpdesk.Json.Reader

/-!
# Helpdesk.Condition.Quotation — what a quoted text spells.

A quotation has a kind: plain text, bytes or an interpolated text, each possibly raw. Outside raw
quotations a backslash starts an escape: a letter for a control, up to three octal digits, two
hexadecimal digits after `x`, four after `u` and eight after `U`; before a line end it joins the
lines; before any other character it stands for itself.

An interpolated text alternates literal stretches with fields in braces. A field holds an
expression, possibly a conversion after an exclamation mark and possibly, after a colon, a format
that may hold fields of its own.
-/
namespace Helpdesk.Condition

/-- A quotation as it was scanned. -/
structure Quotation where
  isBytes : Bool
  isRaw : Bool
  isInterpolated : Bool
  body : List Char

/-- Whether a digit is octal. -/
def isOctal (c : Char) : Bool :=
  '0' ≤ c && c ≤ '7'

/-- The value of hexadecimal digits, if all of them are. -/
def hexNumber? (ds : List Char) : Option Nat :=
  ds.foldlM (fun n d => (Json.hexValue? d).map (16 * n + ·)) 0

/-- The control that a letter after a backslash stands for. -/
def controlEscape? (c : Char) : Option Nat :=
  match c with
  | '\\' => some 92
  | '\'' => some 39
  | '"' => some 34
  | 'a' => some 7
  | 'b' => some 8
  | 'f' => some 12
  | 'n' => some 10
  | 'r' => some 13
  | 't' => some 9
  | 'v' => some 11
  | _ => none

/-- The characters that the body of a text quotation spells, by code point; `wide` admits the
escapes with four and eight digits and every character. The first argument counts characters of an
escape that were already read. -/
def unescape (wide : Bool) : Nat → List Char → Option (List Nat)
  | _, [] => some []
  | skip + 1, _ :: rest => unescape wide skip rest
  | 0, '\\' :: c :: rest =>
    match controlEscape? c with
    | some n => (unescape wide 1 (c :: rest)).map (n :: ·)
    | none =>
      if c = '\n' then unescape wide 1 (c :: rest)
      else if isOctal c then
        let ds := ((c :: rest).take 3).takeWhile isOctal
        let n := ds.foldl (fun n d => 8 * n + (d.toNat - 48)) 0
        (unescape wide ds.length (c :: rest)).map ((if wide then n else n % 256) :: ·)
      else
        let width := if c = 'x' then 2
          else if wide && c == 'u' then 4
          else if wide && c == 'U' then 8
          else 0
        if width = 0 then
          if wide && c == 'N' then none
          else (unescape wide 0 (c :: rest)).map (92 :: ·)
        else
          let ds := rest.take width
          if ds.length < width then none
          else match hexNumber? ds with
            | none => none
            | some n =>
              if 0x10ffff < n then none
              else (unescape wide (width + 1) (c :: rest)).map (n :: ·)
  | 0, c :: rest => (unescape wide 0 rest).map (c.toNat :: ·)

/-- A character by code point, with the replacement character for a surrogate. -/
def charOfCode (n : Nat) : Char :=
  Json.unitChar n

/-- The text that literal characters spell. -/
def Quotation.textOf (q : Quotation) (cs : List Char) : Option String :=
  if q.isRaw then some (String.ofList cs)
  else (unescape true 0 cs).map fun codes => String.ofList (codes.map charOfCode)

/-- The bytes that a quotation of bytes spells; all of its characters are ASCII. -/
def Quotation.bytes? (q : Quotation) : Option (List Nat) :=
  if q.body.any fun c => 128 ≤ c.toNat then none
  else if q.isRaw then some (q.body.map Char.toNat)
  else unescape false 0 q.body

/-! ## Interpolation -/

/-- Whether a character closes the bracket that another opens. -/
def closes (opening closing : Char) : Bool :=
  (opening == '(' && closing == ')') || (opening == '[' && closing == ']') ||
    (opening == '{' && closing == '}')

/-- Whether a character opens a bracket. -/
def isOpening (c : Char) : Bool :=
  c == '(' || c == '[' || c == '{'

/-- Whether a character closes a bracket. -/
def isClosing (c : Char) : Bool :=
  c == ')' || c == ']' || c == '}'

/-- The deepest nesting of brackets. -/
def maxBrackets : Nat := 200

/-- Where the scanner of a field stands: the quote it is inside, if any, and whether that quote is
tripled, and the open brackets, innermost first. -/
structure FieldState where
  quote : Option (Char × Bool)
  open_ : List Char

/-- The expression of a field and the text from its end on: the character that ends it is a brace, a
colon, an equals sign or an exclamation mark outside brackets and quotes. -/
def fieldExpression : Nat → FieldState → List Char → Option (List Char × List Char)
  | _, _, [] => none
  | skip + 1, st, c :: rest =>
    (fieldExpression skip st rest).map fun (e, after) => (c :: e, after)
  | 0, st, c :: rest =>
    if c = '\\' then none
    else match st.quote with
    | some (q, tripled) =>
      if c = q then
        if tripled then
          if [q, q].isPrefixOf rest then
            (fieldExpression 2 ⟨none, st.open_⟩ rest).map fun (e, after) => (c :: e, after)
          else (fieldExpression 0 st rest).map fun (e, after) => (c :: e, after)
        else (fieldExpression 0 ⟨none, st.open_⟩ rest).map fun (e, after) => (c :: e, after)
      else (fieldExpression 0 st rest).map fun (e, after) => (c :: e, after)
    | none =>
      if c = '\'' ∨ c = '"' then
        if [c, c].isPrefixOf rest then
          (fieldExpression 2 ⟨some (c, true), st.open_⟩ rest).map fun (e, after) => (c :: e, after)
        else (fieldExpression 0 ⟨some (c, false), st.open_⟩ rest).map fun (e, after) => (c :: e, after)
      else if isOpening c then
        if maxBrackets ≤ st.open_.length then none
        else (fieldExpression 0 ⟨none, c :: st.open_⟩ rest).map fun (e, after) => (c :: e, after)
      else if c = '#' then none
      else if st.open_.isEmpty && (c == '!' || c == ':' || c == '}' || c == '=' || c == '<' || c == '>')
      then
        if rest.head? = some '=' ∧ (c = '!' ∨ c = '=' ∨ c = '<' ∨ c = '>') then
          (fieldExpression 1 st rest).map fun (e, after) => (c :: e, after)
        else if c = '<' ∨ c = '>' then
          (fieldExpression 0 st rest).map fun (e, after) => (c :: e, after)
        else some ([], c :: rest)
      else if isClosing c then
        match st.open_ with
        | [] => none
        | opening :: outer =>
          if closes opening c then
            (fieldExpression 0 ⟨none, outer⟩ rest).map fun (e, after) => (c :: e, after)
          else none
      else (fieldExpression 0 st rest).map fun (e, after) => (c :: e, after)

/-- Whether a field holds nothing but white space. -/
def isEmptyField (cs : List Char) : Bool :=
  cs.all fun c => c == ' ' || c == '\t' || c == '\n' || c.toNat == 12

/-- The text after the conversion of a field, when it has one. -/
def afterConversion : List Char → Option (List Char)
  | '!' :: c :: rest => if c = 's' ∨ c = 'r' ∨ c = 'a' then some rest else none
  | '!' :: [] => none
  | cs => some cs

/-- The literal stretch at the front and the rest of the text. A named-character escape takes its
braces with it. -/
def literalStretch (raw nested : Bool) : Nat → List Char → Option (List Char × List Char)
  | _, [] => some ([], [])
  | skip + 1, c :: rest =>
    (literalStretch raw nested skip rest).map fun (l, after) => (c :: l, after)
  | 0, '\\' :: c :: rest =>
    if raw then
      (literalStretch raw nested 0 (c :: rest)).map fun (l, after) => ('\\' :: l, after)
    else if c = 'N' ∧ rest.head? = some '{' then
      let name := rest.takeWhile (· != '}')
      (literalStretch raw nested (name.length + 2) (c :: rest)).map fun (l, after) =>
        ('\\' :: l, after)
    else if c = '{' ∨ c = '}' then
      (literalStretch raw nested 0 (c :: rest)).map fun (l, after) => ('\\' :: l, after)
    else
      (literalStretch raw nested 1 (c :: rest)).map fun (l, after) => ('\\' :: l, after)
  | 0, c :: rest =>
    if c = '{' ∨ c = '}' then
      match rest with
      | d :: more =>
        if !nested && d == c then
          (literalStretch raw nested 0 more).map fun (l, after) => (c :: l, after)
        else if !nested && c == '}' then none
        else some ([], c :: rest)
      | [] => if !nested && c == '}' then none else some ([], [c])
    else (literalStretch raw nested 0 rest).map fun (l, after) => (c :: l, after)

/-- The expressions of the fields of an interpolated text, formats included, in order, and what
follows the text: nothing at the top, the closing brace inside a format. -/
def Quotation.fieldsFrom (q : Quotation) : Nat → Nat → List Char →
    Option (List (List Char) × List Char)
  | 0, _, _ => none
  | fuel + 1, level, cs => do
    let (literal, rest) ← literalStretch q.isRaw (decide (0 < level)) 0 cs
    let _ ← q.textOf literal
    match rest with
    | '{' :: rest =>
      if 2 ≤ level then none
      else
        let (e, after) ← fieldExpression 0 ⟨none, []⟩ rest
        if isEmptyField e then none
        else
          let after := match after with
            | '=' :: r => r.dropWhile fun c => c == ' ' || (9 ≤ c.toNat && c.toNat ≤ 13)
            | r => r
          let after ← afterConversion after
          let (inner, after) ← match after with
            | ':' :: r => q.fieldsFrom fuel (level + 1) r
            | r => some ([], r)
          match after with
          | '}' :: r =>
            let (others, last) ← q.fieldsFrom fuel level r
            some (e :: inner ++ others, last)
          | _ => none
    | rest => if level = 0 ∧ !rest.isEmpty then none else some ([], rest)

/-- The expressions of the fields of an interpolated text. -/
def Quotation.fields? (q : Quotation) : Option (List (List Char)) :=
  (q.fieldsFrom (q.body.length + 1) 0 q.body).map Prod.fst

end Helpdesk.Condition
