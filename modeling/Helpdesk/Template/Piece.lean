import Helpdesk.Text.Blank
import Helpdesk.Text.Slice
import Helpdesk.Text.Word

/-!
# Helpdesk.Template.Piece — the text, the outputs and the tags of a template.

Outputs stand between double braces and tags between a brace and a percent sign. A hyphen inside
either mark removes the white space of the text beside it. Between the tags `raw` and `endraw`
everything is text.
-/
namespace Helpdesk.Template

inductive Piece where
  | text (s : String)
  | output (expression : String)
  | tag (name expression : String)

namespace Piece

/-- The text before a mark, and what follows the mark. -/
def until? (mark : List Char) : List Char → Option (List Char × List Char)
  | [] => if mark.isEmpty then some ([], []) else none
  | c :: rest =>
    match Text.stripWord mark (c :: rest) with
    | some r => some ([], r)
    | none => (until? mark rest).map fun (s, r) => (c :: s, r)

/-- The inside of a mark without its hyphens and outer white space, and whether a hyphen stands at
its end. -/
def inside (cs : List Char) : List Char × Bool :=
  let cs := match cs with
    | '-' :: rest => rest
    | cs => cs
  match cs.reverse with
  | '-' :: rest => (Text.trimChars rest.reverse, true)
  | _ => (Text.trimChars cs, false)

/-- The name of a tag and what follows it. -/
def splitTag (cs : List Char) : List Char × List Char :=
  match cs with
  | '#' :: rest => (['#'], Text.trimChars rest)
  | _ =>
    let name := cs.takeWhile Text.isWordChar
    (name, Text.trimChars (cs.drop name.length))

/-- What stands between a tag's marks and after it, when the text starts with a tag. -/
def tag? (cs : List Char) : Option (List Char × Bool × List Char) :=
  match Text.stripWord ['{', '%'] cs with
  | none => none
  | some rest =>
    (until? ['%', '}'] rest).map fun (body, after) =>
      let (body, trims) := inside body
      (body, trims, after)

/-- The text up to the tag `endraw`, whether white space is removed at its end and after the tag, and
the rest. -/
def untilEndRaw : Nat → List Char → Option (List Char × Bool × Bool × List Char)
  | 0, _ => none
  | _ + 1, [] => none
  | fuel + 1, c :: rest =>
    match tag? (c :: rest) with
    | some (['e', 'n', 'd', 'r', 'a', 'w'], trims, after) =>
      let trimsBefore := (rest.drop 1).head? == some '-'
      some ([], trimsBefore, trims, after)
    | _ => (untilEndRaw fuel rest).map fun (s, more) => (c :: s, more)

/-- The text up to the next mark, whether that mark removes the white space before it, and the
rest. -/
def untilMark : List Char → List Char × Bool × List Char
  | [] => ([], false, [])
  | '{' :: '{' :: rest => ([], rest.head? == some '-', '{' :: '{' :: rest)
  | '{' :: '%' :: rest => ([], rest.head? == some '-', '{' :: '%' :: rest)
  | c :: rest =>
    let (s, trims, r) := untilMark rest
    (c :: s, trims, r)

/-- Text with the white space at its ends removed where a mark asks for it. -/
def trimmed (atStart atEnd : Bool) (cs : List Char) : List Char :=
  let cs := if atStart then Text.dropLeading Text.isBlank cs else cs
  if atEnd then Text.dropTrailing Text.isBlank cs else cs

/-- A piece of text, unless there is none. -/
def ofChars (cs : List Char) : List Piece :=
  if cs.isEmpty then [] else [.text (String.ofList cs)]

/-- The pieces of a template; `trims` tells that the mark before asks to remove white space. Each
piece takes at least a character, so the length of the text is enough fuel. -/
def readAll : Nat → Bool → List Char → Option (List Piece)
  | 0, _, _ => some []
  | _ + 1, _, [] => some []
  | fuel + 1, trims, cs =>
    match Text.stripWord ['{', '{'] cs, tag? cs with
    | some rest, _ =>
      match until? ['}', '}'] rest with
      | none => none
      | some (body, after) => do
        let (body, trims) := inside body
        return .output (String.ofList body) :: (← readAll fuel trims after)
    | none, some (body, trimsAfter, after) =>
      let (name, expression) := splitTag body
      let raw := if name = "raw".toList ∧ expression.isEmpty then untilEndRaw cs.length after else none
      match raw with
      | some (inner, trimsInner, trimsOuter, rest) => do
        return ofChars (trimmed trimsAfter trimsInner inner) ++ (← readAll fuel trimsOuter rest)
      | none => do
        return .tag (String.ofList name) (String.ofList expression) ::
          (← readAll fuel trimsAfter after)
    | none, none =>
      match Text.stripWord ['{', '%'] cs with
      | some _ => none
      | none => do
        let (s, trimsEnd, rest) := untilMark cs
        return ofChars (trimmed trims trimsEnd s) ++ (← readAll fuel false rest)

/-- The pieces of a template, unless a mark is not closed. -/
def ofText? (s : String) : Option (List Piece) :=
  readAll (s.length + 1) false s.toList

end Piece

end Helpdesk.Template
