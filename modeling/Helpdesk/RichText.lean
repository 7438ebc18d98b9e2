import Helpdesk.Misfit

/-!
# Helpdesk.RichText — documents of the message editor.

Messages and ticket descriptions are documents: trees of elements with a kind, attributes, perhaps a
text, and child elements. A document is rendered to plain text for prompts, with light markers for
headings, lists, quotes and code; its images are listed beside the text, because models take them as
parts of their own.

Lists are numbered by one counter for the whole document. A list that starts anywhere, also inside
an item of another list, decides how the items after it are labelled.
-/
namespace Helpdesk

namespace RichText

/-! ## Documents -/

/-- What an element is. -/
inductive Tag where
  | text | paragraph | heading | hardBreak | bulletList | orderedList | listItem | blockquote
  | codeBlock | horizontalRule | image | other
  deriving DecidableEq

/-- The kinds of element under their stored names. -/
def Tag.names : List (String × Tag) :=
  [("text", .text), ("paragraph", .paragraph), ("heading", .heading), ("hardBreak", .hardBreak),
    ("bulletList", .bulletList), ("orderedList", .orderedList), ("listItem", .listItem),
    ("blockquote", .blockquote), ("codeBlock", .codeBlock), ("horizontalRule", .horizontalRule),
    ("image", .image)]

/-- The kind of element that a stored value names. -/
def Tag.ofValue : Value → Tag
  | .text name => (Tag.names.lookup name).getD .other
  | _ => .other

/-- An element of a document. What is not an element has been left out of the children; `barred` is
set when something stands in the children's place that holds no elements at all. -/
inductive Node where
  | mk (tag : Tag) (attrs text : Value) (children : List Node) (barred : Option Kind)

/-- The kind of a value in the children's place that is no sequence. -/
def barredKind : Value → Option Kind
  | .bool true => some .bool
  | .int n => if n = 0 then none else some .int
  | .float x => if x == 0.0 then none else some .float
  | _ => none

mutual

/-- The element that a value holds, if it holds one. -/
def Node.ofValue? : Value → Option Node
  | .object entries =>
    let found := fun name => (Entries.value? name entries).getD .null
    some (.mk (Tag.ofValue (found "type")) (found "attrs") (found "text") (childrenIn entries)
      (barredKind (found "content")))
  | _ => none

/-- The elements under the entries of an element. -/
def childrenIn : List (String × Value) → List Node
  | [] => []
  | (name, v) :: rest => if name = "content" then childrenOf v else childrenIn rest

/-- The elements of a list. -/
def childrenOf : Value → List Node
  | .list items => nodesOf items
  | _ => []

/-- The elements among some values. -/
def nodesOf : List Value → List Node
  | [] => []
  | v :: rest =>
    match Node.ofValue? v with
    | some node => node :: nodesOf rest
    | none => nodesOf rest

end

/-- Goes on into the children of an element, unless something bars the way. -/
def enter {α : Type} (barred : Option Kind) (inner : Except Misfit α) : Except Misfit α :=
  match barred with
  | some kind => .error (.notIterable kind)
  | none => inner

/-! ## Images -/

/-- The image that an element shows. -/
def ownImage (tag : Tag) (attrs : Value) : Except Misfit (List Value) :=
  if tag = .image then do
    let source ← attrs.member "src"
    return if source.counts then [source] else []
  else return []

mutual

/-- The images of an element and of everything in it, in order. -/
def Node.images : Node → Except Misfit (List Value)
  | .mk tag attrs _ children barred => do
    let own ← ownImage tag attrs
    let inner ← enter barred (imagesOf children)
    return own ++ inner

/-- The images of several elements. -/
def imagesOf : List Node → Except Misfit (List Value)
  | [] => return []
  | node :: rest => do
    let first ← node.images
    return first ++ (← imagesOf rest)

end

/-- The images of a document, in document order. -/
def images (document : Value) : Except Misfit (List Value) :=
  match Node.ofValue? document with
  | some node => node.images
  | none => return []

/-! ## Text -/

/-- How the next list item is labelled. -/
structure Labels where
  ordered : Bool
  next : Int

/-- Whether a number has few enough digits to be spelled. -/
def isSpellable (n : Int) : Bool :=
  decide ((Nat.toDigits 10 n.natAbs).length ≤ Decimal.maxSpelledDigits)

/-- The label of an item, and how the item after it is labelled. -/
def Labels.take (l : Labels) : Except Misfit (String × Labels) :=
  if l.ordered then
    if isSpellable l.next then .ok (decimal l.next ++ ". ", { l with next := l.next + 1 })
    else .error .hugeInteger
  else .ok ("- ", l)

/-- What rendering an element gives: the pieces of its text, and the labels that follow. -/
abbrev Rendered := Except Misfit (List Text.Piece × Labels)

/-- Something rendered between two texts. -/
def Rendered.between (before after : String) (body : Rendered) : Rendered :=
  body.map fun (pieces, l) => (.text before :: pieces ++ [.text after], l)

/-- Something rendered with a text behind it. -/
def Rendered.before (after : String) (body : Rendered) : Rendered :=
  body.map fun (pieces, l) => (pieces ++ [.text after], l)

/-- The bound of the numbers that say how often a text is repeated. -/
def countLimit : Int := 9223372036854775808

/-- Whether a text can be repeated so many times; a negative number stands for none. -/
def isCount (n : Int) : Bool :=
  decide (-countLimit ≤ n ∧ n < countLimit)

/-- The mark of a heading. -/
def headingMark (attrs : Value) : Except Misfit String := do
  let level ← ((← attrs.member "level").orElse (.int 1)).toInteger
  if isCount level then return Text.repeated "#" level.toNat ++ " "
  else throw .hugeCount

/-- The number that a numbered list starts with. -/
def listStart (attrs : Value) : Except Misfit Int := do
  ((← attrs.member "start").orElse (.int 1)).toInteger

/-- The opening line of a code block. -/
def codeFence (attrs : Value) : Except Misfit String := do
  match (← attrs.member "language").orElse (.text "") with
  | .text language => return "\n```" ++ language ++ "\n"
  | v => throw (.notAppendable v.kind)

mutual

/-- Renders an element; `inItem` holds inside a list item, where paragraphs take no line of their
own. -/
def Node.render (inItem : Bool) : Node → Labels → Rendered
  | .mk tag attrs text children barred, l =>
    match tag with
    | .text => .ok ([.ofValue (text.orElse (.text ""))], l)
    | .paragraph =>
      if inItem then enter barred (renderAll inItem children l)
      else .before "\n" (enter barred (renderAll inItem children l))
    | .heading => do
      let mark ← headingMark attrs
      Rendered.between mark "\n" (enter barred (renderAll false children l))
    | .hardBreak => .ok ([.text "\n"], l)
    | .bulletList =>
      .before "\n" (enter barred (renderAll false children { l with ordered := false }))
    | .orderedList => do
      let start ← listStart attrs
      Rendered.before "\n" (enter barred (renderAll false children ⟨true, start⟩))
    | .listItem => do
      let (label, l) ← l.take
      Rendered.between label "\n" (enter barred (renderAll true children l))
    | .blockquote => .between "> " "\n" (enter barred (renderAll false children l))
    | .codeBlock => do
      let fence ← codeFence attrs
      Rendered.between fence "\n```\n" (enter barred (renderAll false children l))
    | .horizontalRule => .ok ([.text "\n---\n"], l)
    | .image => .ok ([], l)
    | .other => enter barred (renderAll inItem children l)

/-- Renders several elements one after another. -/
def renderAll (inItem : Bool) : List Node → Labels → Rendered
  | [], l => .ok ([], l)
  | node :: rest, l => do
    let (first, l) ← node.render inItem l
    let (others, l) ← renderAll inItem rest l
    return (first ++ others, l)

end

/-- Lines without the spaces and tabs at their ends; the last line keeps its own. -/
def trimLineEnds : List Char → List Char
  | [] => []
  | c :: rest =>
    let tail := trimLineEnds rest
    if (c = ' ' ∨ c = '\t') ∧ tail.head? = some '\n' then tail else c :: tail

/-- Text in which at most two line feeds follow one another; `run` of them stand right before. -/
def limitLineFeeds (run : Nat) : List Char → List Char
  | [] => []
  | c :: rest =>
    if c = '\n' then
      if run < 2 then c :: limitLineFeeds (run + 1) rest else limitLineFeeds run rest
    else c :: limitLineFeeds 0 rest

/-- Rendered text without the white space that rendering leaves behind. -/
def tidy (s : String) : String :=
  String.ofList (Text.trimChars (limitLineFeeds 0 (trimLineEnds s.toList)))

/-- The text of a document without its images. A text that is no document stands for itself. -/
def text (document : Value) : Except Misfit String :=
  match document with
  | .text s => return Text.trim s
  | document =>
    match Node.ofValue? document with
    | none => return ""
    | some node => do
      let (pieces, _) ← node.render false ⟨false, 1⟩
      return tidy (← Text.joinPieces "" pieces)

/-- The text of a document with a mark for each image behind it. -/
def textWithImages (document : Value) : Except Misfit String := do
  let images ← images document
  let text ← text document
  if images.isEmpty then return text
  else
    let marks := Text.join " " (images.map fun source => "[图片: " ++ source.plainText ++ "]")
    return if text.isEmpty then marks else text ++ " " ++ marks

/-! ## Messages to models -/

/-- The part of a message that holds text. -/
def textPart (text : String) : Value :=
  .object [("type", .text "text"), ("text", .text text)]

/-- The part of a message that holds an image. -/
def imagePart (source : Value) : Value :=
  .object [("type", .text "image_url"), ("image_url", .object [("url", source)])]

/-- A document as the body of a message to a model: its text when there are no images, else a list
of parts. -/
def messageBody (document : Value) : Except Misfit Value := do
  let images ← images document
  let text ← text document
  if images.isEmpty then return .text text
  else
    let parts := if Text.isBlankText text then [] else [textPart text]
    return .list (parts ++ images.map imagePart)

/-- The text of one part of a message. -/
def partText : Value → Except Misfit Text.Piece
  | .object entries =>
    if (Entries.value? "type" entries).any (·.isText "text") then
      return .ofValue ((Entries.value? "text" entries).getD (.text ""))
    else return .text "[图片]"
  | v => throw (.noMember v.kind "get")

/-- The body of a message as text, with a mark in place of each image. -/
def bodyText : Value → Except Misfit String
  | .text s => return s
  | .list parts => do Text.joinPieces " " (← parts.mapM partText)
  | .object entries => if entries.isEmpty then return "" else throw (.noMember .text "get")
  | v => throw (.notIterable v.kind)

/-! ## Replies -/

/-- A reply as a document of one paragraph; a blank reply is an empty document. -/
def ofReply (text : String) : Value :=
  let body := if Text.isBlankText text then []
    else [.object [("type", .text "paragraph"), ("content", .list [textPart text])]]
  .object [("type", .text "doc"), ("content", .list body)]

/-- A reply that may be no text as a document. -/
def ofReply? : Value → Except Misfit Value
  | .text s => return ofReply s
  | v => if v.counts then throw (.noMember v.kind "strip") else return ofReply ""

end RichText

end Helpdesk
