import Helpdesk.Proofs.RichText
import Helpdesk.Proofs.RichText.Tidy

/-!
# Helpdesk.Proofs.RichText.Outline — what is written for a document.

A document is written as a row of fragments in document order: the texts of its text elements, and the
marks of the elements around them. The row follows the elements alone, but for the labels of list
items, which come from a labelling of places; the renderer's own labelling is read off the counter
that it carries through the walk. `text_eq` takes the counter out of the renderer, so that everything
said of a document's text is said of its fragments.

A document is readable when each attribute that is made use of is missing or of its kind, as it is in
every document that the editor stores. Two marks can fail to be written: the mark of a heading whose
level no text can be long for, and the label of an item whose number has too many digits.
-/
namespace Helpdesk.RichText

open Text (visible visible_append)

/-! ## Elements -/

/-- What is made use of in an element is of the right kind. -/
def Usable (attrs text : Value) : Tag → Prop
  | .text => text.counts = true → ∃ s, text = .text s
  | .image => Attribute "src" attrs fun _ => True
  | .heading => Attribute "level" attrs fun v => ∃ n, v = .int n
  | .orderedList => Attribute "start" attrs fun v => ∃ n, v = .int n
  | .codeBlock => Attribute "language" attrs fun v => ∃ s, v = .text s
  | _ => True

mutual

/-- An element in which everything is of the right kind. -/
def Node.Readable : Node → Prop
  | .mk tag attrs text children barred => barred = none ∧ Usable attrs text tag ∧ AllReadable children

/-- Elements in which everything is of the right kind. -/
def AllReadable : List Node → Prop
  | [] => True
  | node :: rest => node.Readable ∧ AllReadable rest

end

/-- An element in which nothing is shown. -/
def Tag.isClosed : Tag → Bool
  | .text | .hardBreak | .horizontalRule | .image => true
  | _ => false

mutual

/-- An element and everything in it, in document order. -/
def Node.all : Node → List Node
  | .mk tag attrs text children barred => .mk tag attrs text children barred :: allOf children

/-- Some elements and everything in them, in document order. -/
def allOf : List Node → List Node
  | [] => []
  | node :: rest => node.all ++ allOf rest

end

mutual

/-- An element and what is shown in it, in document order. -/
def Node.shown : Node → List Node
  | .mk tag attrs text children barred =>
    .mk tag attrs text children barred :: if tag.isClosed then [] else shownOf children

/-- Some elements and what is shown in them, in document order. -/
def shownOf : List Node → List Node
  | [] => []
  | node :: rest => node.shown ++ shownOf rest

end

/-- The number that a value holds; one where it holds none. -/
def numberIn : Value → Int
  | .int n => n
  | _ => 1

/-- The number under a name; one where it is missing or zero. -/
def numberOf (name : String) (attrs : Value) : Int :=
  numberIn ((attrs.field name).orElse (.int 1))

/-- The characters of a text; none where there is no text. -/
def textOf (v : Value) : String :=
  v.text?.getD ""

/-- The text of a text element. -/
def Node.text? : Node → Option String
  | .mk .text _ text _ _ => some (textOf text)
  | _ => none

/-- The source of an image, unless it is missing or empty. -/
def Node.source? : Node → Option Value
  | .mk .image attrs _ _ _ => if (attrs.field "src").counts then some (attrs.field "src") else none
  | _ => none

/-! ## Documents as they are stored -/

/-- A value is missing or of a kind. -/
def isOptional (kind : Kind) (v : Value) : Bool :=
  decide (v.kind = .null ∨ v.kind = kind)

/-- The attributes of an element as the editor stores them: levels and starts are integers, languages
are texts. -/
def areAttributes (attrs : Value) : Bool :=
  isOptional .object attrs && isOptional .int (attrs.field "level") &&
    isOptional .int (attrs.field "start") && isOptional .text (attrs.field "language")

mutual

/-- A document as the editor stores it: an object whose text is a text, whose attributes are an object
and whose content is a list of documents, where they are given. -/
def isDocument : Value → Bool
  | .object entries =>
    isOptional .text ((Entries.value? "text" entries).getD .null) &&
      areAttributes ((Entries.value? "attrs" entries).getD .null) && hasDocuments entries
  | _ => false

/-- The children of an element are documents. -/
def hasDocuments : List (String × Value) → Bool
  | [] => true
  | (name, v) :: rest => if name = "content" then isContent v else hasDocuments rest

/-- The content of an element is a list of documents, or there is none. -/
def isContent : Value → Bool
  | .null => true
  | .list items => areDocuments items
  | _ => false

/-- Some values are documents. -/
def areDocuments : List Value → Bool
  | [] => true
  | v :: rest => isDocument v && areDocuments rest

end

theorem member_eq_field {attrs : Value} (h : isOptional .object attrs = true) (name : String) :
    attrs.member name = .ok (attrs.field name) := by
  cases attrs with
  | null | object _ => rfl
  | _ => cases h

theorem exists_int_of_isOptional {v : Value} (h : isOptional .int v = true)
    (hcounts : v.counts = true) : ∃ n, v = .int n := by
  cases v with
  | null => cases hcounts
  | int n => exact ⟨n, rfl⟩
  | _ => cases h

theorem exists_text_of_isOptional {v : Value} (h : isOptional .text v = true)
    (hcounts : v.counts = true) : ∃ s, v = .text s := by
  cases v with
  | null => cases hcounts
  | text s => exact ⟨s, rfl⟩
  | _ => cases h

theorem usable_of_areAttributes {attrs text : Value} (hattrs : areAttributes attrs = true)
    (htext : isOptional .text text = true) (tag : Tag) : Usable attrs text tag := by
  simp only [areAttributes, Bool.and_eq_true] at hattrs
  obtain ⟨⟨⟨hobject, hlevel⟩, hstart⟩, hlanguage⟩ := hattrs
  have hmember := member_eq_field hobject
  cases tag with
  | text => exact exists_text_of_isOptional htext
  | image => exact ⟨_, hmember _, fun _ => trivial⟩
  | heading => exact ⟨_, hmember _, exists_int_of_isOptional hlevel⟩
  | orderedList => exact ⟨_, hmember _, exists_int_of_isOptional hstart⟩
  | codeBlock => exact ⟨_, hmember _, exists_text_of_isOptional hlanguage⟩
  | _ => trivial

mutual

/-- **Stored documents are readable.** -/
theorem exists_readable : (document : Value) → isDocument document = true →
    ∃ node, Node.ofValue? document = some node ∧ node.Readable
  | .object entries, h => by
    simp only [isDocument, Bool.and_eq_true] at h
    obtain ⟨⟨htext, hattrs⟩, hentries⟩ := h
    obtain ⟨hbarred, hchildren⟩ := readable_childrenIn entries hentries
    exact ⟨_, rfl, hbarred, usable_of_areAttributes hattrs htext _, hchildren⟩
  | .null, h | .bool _, h | .int _, h | .float _, h | .text _, h | .list _, h => by cases h

theorem readable_childrenIn : (entries : List (String × Value)) → hasDocuments entries = true →
    barredKind ((Entries.value? "content" entries).getD .null) = none ∧
      AllReadable (childrenIn entries)
  | [], _ => ⟨rfl, trivial⟩
  | (name, v) :: rest, h => by
    rw [hasDocuments] at h
    rw [Entries.value?, childrenIn]
    split at h
    · rename_i hname
      rw [if_pos hname, if_pos hname]
      exact readable_childrenOf v h
    · rename_i hname
      rw [if_neg hname, if_neg hname]
      exact readable_childrenIn rest h

theorem readable_childrenOf : (content : Value) → isContent content = true →
    barredKind content = none ∧ AllReadable (childrenOf content)
  | .null, _ => ⟨rfl, trivial⟩
  | .list items, h => ⟨rfl, readable_nodesOf items h⟩
  | .bool _, h | .int _, h | .float _, h | .text _, h | .object _, h => by cases h

theorem readable_nodesOf : (items : List Value) → areDocuments items = true →
    AllReadable (nodesOf items)
  | [], _ => trivial
  | v :: rest, h => by
    rw [areDocuments, Bool.and_eq_true] at h
    obtain ⟨node, hnode, hreadable⟩ := exists_readable v h.1
    rw [nodesOf, hnode]
    exact ⟨hreadable, readable_nodesOf rest h.2⟩

end

theorem readable_of_isDocument {document : Value} {node : Node}
    (hnode : Node.ofValue? document = some node) (h : isDocument document = true) : node.Readable := by
  obtain ⟨found, hfound, hreadable⟩ := exists_readable document h
  rw [hnode] at hfound
  rwa [Option.some.inj hfound]

/-! ## Fragments -/

/-- What is written for an element beside the texts in it. -/
inductive Mark where
  | heading (level : Int)
  /-- The label of an item in a numbered list. -/
  | number (n : Int)
  /-- The label of any other item. -/
  | bullet
  | quote
  | fence (language : String)
  | fenceEnd
  | rule
  | lineEnd

namespace Mark

/-- A mark as it is written. -/
def write : Mark → Except Misfit String
  | heading level =>
    if isCount level then .ok (Text.repeated "#" level.toNat ++ " ") else .error .hugeCount
  | number n => if isSpellable n then .ok (decimal n ++ ". ") else .error .hugeInteger
  | bullet => .ok "- "
  | quote => .ok "> "
  | fence language => .ok ("\n```" ++ language ++ "\n")
  | fenceEnd => .ok "\n```\n"
  | rule => .ok "\n---\n"
  | lineEnd => .ok "\n"

/-- What can be seen of a mark, but for the blanks in the language of a code block. -/
def face : Mark → String
  | heading level => Text.repeated "#" level.toNat
  | number n => decimal n ++ "."
  | bullet => "-"
  | quote => ">"
  | fence language => "```" ++ language
  | fenceEnd => "```"
  | rule => "---"
  | lineEnd => ""

/-- A mark that is short enough to be written. -/
def Writable : Mark → Prop
  | heading level => -countLimit ≤ level ∧ level < countLimit
  | number n => n.natAbs < 10 ^ Decimal.maxSpelledDigits
  | _ => True

end Mark

/-- A piece of what is written for a document. -/
inductive Fragment where
  | text (s : String)
  | mark (m : Mark)

namespace Fragment

/-- A fragment as it is written. -/
def write : Fragment → Except Misfit String
  | text s => .ok s
  | mark m => m.write

/-- What can be seen of a fragment. -/
def face : Fragment → String
  | text s => s
  | mark m => m.face

/-- A fragment that can be written. -/
def Writable : Fragment → Prop
  | text _ => True
  | mark m => m.Writable

/-- The text that a fragment takes from the document. -/
def text? : Fragment → Option String
  | text s => some s
  | mark _ => none

end Fragment

/-- The marks in front of what is in an element; `label` is for a list item. -/
def marksBefore (label : Mark) (attrs : Value) : Tag → List Mark
  | .heading => [.heading (numberOf "level" attrs)]
  | .hardBreak => [.lineEnd]
  | .listItem => [label]
  | .blockquote => [.quote]
  | .codeBlock => [.fence (textOf (attrs.field "language"))]
  | .horizontalRule => [.rule]
  | _ => []

/-- The marks behind what is in an element. -/
def marksAfter (inItem : Bool) : Tag → List Mark
  | .paragraph => if inItem then [] else [.lineEnd]
  | .heading | .bulletList | .orderedList | .listItem | .blockquote => [.lineEnd]
  | .codeBlock => [.fenceEnd]
  | _ => []

/-- Whether what is in an element stands in a list item; `inItem` tells that the element does. -/
def Tag.inItem (inItem : Bool) : Tag → Bool
  | .paragraph | .other => inItem
  | .listItem => true
  | _ => false

/-- Where an element stands in a document: the positions among the children, from the outside in. -/
abbrev Place := List Nat

mutual

/-- What is written for an element whose list items are labelled by place. -/
def Node.fragments (label : Place → Mark) (inItem : Bool) : Node → List Fragment
  | .mk tag attrs text children barred =>
    (marksBefore (label []) attrs tag).map .mark ++
      ((Node.mk tag attrs text children barred).text?.toList.map .text ++
        if tag.isClosed then []
        else fragmentsOf (fun position place => label (position :: place)) (tag.inItem inItem) children) ++
      (marksAfter inItem tag).map .mark

/-- What is written for several elements whose list items are labelled by position and place. -/
def fragmentsOf (label : Nat → Place → Mark) (inItem : Bool) : List Node → List Fragment
  | [] => []
  | node :: rest =>
    node.fragments (label 0) inItem ++ fragmentsOf (fun position => label (position + 1)) inItem rest

end

/-! ## Labels -/

/-- The label of the next item. -/
def Labels.mark (l : Labels) : Mark :=
  if l.ordered then .number l.next else .bullet

/-- The labels of what is in an element. -/
def Labels.opened (l : Labels) (attrs : Value) : Tag → Labels
  | .bulletList => { l with ordered := false }
  | .orderedList => ⟨true, numberOf "start" attrs⟩
  | .listItem => if l.ordered then { l with next := l.next + 1 } else l
  | _ => l

mutual

/-- The labels of what follows an element. -/
def Node.after : Node → Labels → Labels
  | .mk tag attrs _ children _, l =>
    if tag.isClosed then l else afterAll children (l.opened attrs tag)

/-- The labels of what follows several elements. -/
def afterAll : List Node → Labels → Labels
  | [], l => l
  | node :: rest, l => afterAll rest (node.after l)

end

mutual

/-- The label of the item at a place. -/
def Node.labelAt : Node → Labels → Place → Mark
  | .mk _ _ _ _ _, l, [] => l.mark
  | .mk tag attrs _ children _, l, position :: place =>
    labelIn children (l.opened attrs tag) position place

/-- The label of the item at a place in one of several elements. -/
def labelIn : List Node → Labels → Nat → Place → Mark
  | [], l, _, _ => l.mark
  | node :: _, l, 0, place => node.labelAt l place
  | node :: rest, l, position + 1, place => labelIn rest (node.after l) position place

end

/-- The labels that a document starts with. -/
def Labels.start : Labels := ⟨false, 1⟩

/-- What is written for a document. -/
def Node.outline (node : Node) : List Fragment :=
  node.fragments (node.labelAt .start) false

/-! ## Attributes -/

theorem field_eq_of_member {name : String} {attrs v : Value} (h : attrs.member name = .ok v) :
    attrs.field name = v := by
  cases attrs with
  | object entries =>
    cases h
    rfl
  | _ =>
    simp only [Value.member] at h
    split at h
    · cases h
    · cases h
      rfl

theorem textOf_eq_of_orElse {v : Value} {s : String} (h : v.orElse (.text "") = .text s) :
    textOf v = s := by
  unfold Value.orElse at h
  split at h
  · rw [h]
    rfl
  · rename_i hcounts
    cases h
    cases v with
    | text t => simpa [Value.counts, textOf, Value.text?] using hcounts
    | _ => rfl

theorem Attribute.orElse_field {name : String} {attrs : Value} {P : Value → Prop}
    (h : Attribute name attrs P) (other : Value) (hother : P other) :
    attrs.member name = .ok (attrs.field name) ∧ P ((attrs.field name).orElse other) := by
  obtain ⟨v, hv, hP⟩ := h.orElse other hother
  rw [field_eq_of_member hv]
  exact ⟨hv, hP⟩

theorem headingMark_eq {attrs text : Value} (h : Usable attrs text .heading) :
    headingMark attrs = (Mark.heading (numberOf "level" attrs)).write := by
  obtain ⟨hmember, n, hn⟩ := Attribute.orElse_field h (.int 1) ⟨1, rfl⟩
  have hlevel : numberOf "level" attrs = n := by rw [numberOf, hn, numberIn]
  have hinteger : ((attrs.field "level").orElse (.int 1)).toInteger = .ok n := by rw [hn]; rfl
  unfold headingMark
  rw [hmember, hlevel]
  show (Value.toInteger _ >>= _) = _
  rw [hinteger]
  rfl

theorem listStart_eq {attrs text : Value} (h : Usable attrs text .orderedList) :
    listStart attrs = .ok (numberOf "start" attrs) := by
  obtain ⟨hmember, n, hn⟩ := Attribute.orElse_field h (.int 1) ⟨1, rfl⟩
  have hstart : numberOf "start" attrs = n := by rw [numberOf, hn, numberIn]
  unfold listStart
  rw [hmember, hstart]
  show Value.toInteger _ = _
  rw [hn]
  rfl

theorem codeFence_eq {attrs text : Value} (h : Usable attrs text .codeBlock) :
    codeFence attrs = (Mark.fence (textOf (attrs.field "language"))).write := by
  obtain ⟨hmember, language, hlanguage⟩ := Attribute.orElse_field h (.text "") ⟨"", rfl⟩
  have hwritten : (Mark.fence (textOf (attrs.field "language"))).write =
      .ok ("\n```" ++ language ++ "\n") := by
    rw [textOf_eq_of_orElse hlanguage]
    rfl
  rw [hwritten]
  refine bind_eq_ok_iff.mpr ⟨_, hmember, ?_⟩
  rw [hlanguage]
  rfl

theorem ofValue_orElse {attrs text : Value} (h : Usable attrs text .text) :
    Text.Piece.ofValue (text.orElse (.text "")) = .text (textOf text) := by
  obtain ⟨s, hs⟩ : ∃ s, text.orElse (.text "") = .text s := by
    unfold Value.orElse
    split
    · rename_i hcounts
      exact h hcounts
    · exact ⟨"", rfl⟩
  rw [hs, textOf_eq_of_orElse hs]
  rfl

theorem take_eq (l : Labels) (attrs : Value) :
    l.take = l.mark.write.map fun label => (label, l.opened attrs .listItem) := by
  unfold Labels.take Labels.mark Labels.opened
  cases l.ordered with
  | true =>
    simp only [if_true, Mark.write]
    split <;> rfl
  | false => rfl

/-! ## Rendering -/

theorem map_bind_eq {α β γ : Type} (found : Except Misfit α) (f : α → β)
    (next : β → Except Misfit γ) : (found.map f >>= next) = found >>= fun a => next (f a) := by
  rcases found with misfit | a <;> rfl

/-- Fragments written one after another, and the labels that follow. -/
def written (fragments : List Fragment) (l : Labels) : Rendered :=
  (fragments.mapM Fragment.write).map fun texts => (texts.map .text, l)

theorem written_append {front back : List Fragment} {m l : Labels} {rest : Labels → Rendered}
    (hrest : rest m = written back l) :
    (do
      let (first, m) ← written front m
      let (others, l) ← rest m
      return (first ++ others, l)) = written (front ++ back) l := by
  unfold written at hrest ⊢
  rw [List.mapM_append]
  rcases front.mapM Fragment.write with misfit | first
  · rfl
  show (rest m >>= _) = _
  rw [hrest]
  rcases back.mapM Fragment.write with misfit | others
  · rfl
  · simp [Except.map, bind, Except.bind, pure, Except.pure]

theorem mapM_mark {m : Mark} {s : String} (hm : m.write = .ok s) :
    [Fragment.mark m].mapM Fragment.write = .ok [s] := by
  rw [List.mapM_cons]
  show (m.write >>= _) = _
  rw [hm]
  rfl

theorem written_before (last : Mark) {after : String} (hlast : last.write = .ok after)
    (fragments : List Fragment) (l : Labels) :
    Rendered.before after (written fragments l) = written (fragments ++ [.mark last]) l := by
  unfold written Rendered.before
  rw [List.mapM_append, mapM_mark hlast]
  rcases fragments.mapM Fragment.write with misfit | texts
  · rfl
  · simp [Except.map, bind, Except.bind, pure, Except.pure]

theorem written_between (last : Mark) {after : String} (hlast : last.write = .ok after)
    (first : Mark) (fragments : List Fragment) (l : Labels) :
    (first.write >>= fun before => Rendered.between before after (written fragments l)) =
      written (.mark first :: fragments ++ [.mark last]) l := by
  rw [← written_before last hlast]
  unfold written
  rw [List.mapM_cons]
  show _ = Rendered.before after (((first.write >>= _) : Except Misfit _).map _)
  rcases first.write with misfit | before
  · rfl
  show Rendered.between before after _ = _
  rcases fragments.mapM Fragment.write with misfit | texts
  · rfl
  · rfl

mutual

/-- **Rendering writes the fragments**, and passes the labels on. -/
theorem render_eq : (node : Node) → node.Readable → ∀ (inItem : Bool) (l : Labels),
    node.render inItem l = written (node.fragments (node.labelAt l) inItem) (node.after l)
  | .mk tag attrs text children barred, h, inItem, l => by
    obtain ⟨rfl, husable, hchildren⟩ := h
    have hinner : ∀ (inItem : Bool) (l : Labels), enter none (renderAll inItem children l) =
        written (fragmentsOf (labelIn children l) inItem children) (afterAll children l) :=
      renderAll_eq children hchildren
    unfold Node.render
    cases tag with
    | text =>
      simp only [ofValue_orElse husable]
      rfl
    | paragraph =>
      simp only [hinner]
      cases inItem with
      | true => exact congrArg (written · _) (List.append_nil _).symm
      | false => exact written_before .lineEnd rfl _ _
    | heading =>
      simp only [hinner, headingMark_eq husable]
      exact written_between .lineEnd rfl _ _ _
    | hardBreak => rfl
    | bulletList =>
      simp only [hinner]
      exact written_before .lineEnd rfl _ _
    | orderedList =>
      simp only [hinner, listStart_eq husable]
      exact written_before .lineEnd rfl _ _
    | listItem =>
      simp only [hinner, take_eq l attrs, map_bind_eq]
      exact written_between .lineEnd rfl _ _ _
    | blockquote =>
      simp only [hinner]
      exact written_between .lineEnd rfl .quote _ _
    | codeBlock =>
      simp only [hinner, codeFence_eq husable]
      exact written_between .fenceEnd rfl _ _ _
    | horizontalRule => rfl
    | image => rfl
    | other =>
      simp only [hinner]
      exact congrArg (written · _) (List.append_nil _).symm

theorem renderAll_eq : (nodes : List Node) → AllReadable nodes → ∀ (inItem : Bool) (l : Labels),
    renderAll inItem nodes l =
      written (fragmentsOf (labelIn nodes l) inItem nodes) (afterAll nodes l)
  | [], _, inItem, l => rfl
  | node :: rest, h, inItem, l => by
    obtain ⟨hnode, hrest⟩ := h
    rw [renderAll, render_eq node hnode inItem l]
    exact written_append (renderAll_eq rest hrest inItem (node.after l))

end

/-! ## Text -/

theorem textsFrom_map_text (texts : List String) (position : Nat) :
    Text.Piece.textsFrom position (texts.map .text) = .ok texts := by
  induction texts generalizing position with
  | nil => rfl
  | cons s rest ih => exact map_eq_ok_iff.mpr ⟨rest, ih (position + 1), rfl⟩

/-- The text of a document is what is written for it, tidied. -/
theorem text_eq {document : Value} {node : Node} (hnode : Node.ofValue? document = some node)
    (h : node.Readable) :
    text document =
      (node.outline.mapM Fragment.write).map fun texts => tidy (Text.join "" texts) := by
  unfold text
  split
  · simp [Node.ofValue?] at hnode
  rw [hnode]
  show (node.render false .start >>= fun (pieces, _) => _) = _
  rw [render_eq node h]
  unfold written Node.outline
  rcases (node.fragments (node.labelAt .start) false).mapM Fragment.write with misfit | texts
  · rfl
  show (Text.joinPieces "" (texts.map .text) >>= fun s => Except.ok (tidy s)) = _
  rw [Text.joinPieces, textsFrom_map_text]
  rfl

theorem toList_join_empty (texts : List String) :
    (Text.join "" texts).toList = texts.flatMap String.toList := by
  fun_induction Text.join "" texts with
  | case1 => rfl
  | case2 s => simp
  | case3 s rest hrest ih => simp [ih]

/-- Marks are written with blanks around them. -/
theorem visible_write_mark {m : Mark} {s : String} (h : m.write = .ok s) :
    visible s.toList = visible m.face.toList := by
  cases m with
  | heading level =>
    rw [Mark.write] at h
    split at h
    · cases h
      rw [Mark.face, String.toList_append, visible_append]
      exact List.append_nil _
    · cases h
  | number n =>
    rw [Mark.write] at h
    split at h
    · cases h
      rw [Mark.face, String.toList_append, String.toList_append, visible_append, visible_append]
      rfl
    · cases h
  | fence language =>
    cases h
    rw [Mark.face, String.toList_append, String.toList_append, String.toList_append, visible_append,
      visible_append, visible_append]
    exact List.append_nil _
  | bullet | quote | fenceEnd | rule | lineEnd =>
    cases h
    rfl

theorem visible_write {f : Fragment} {s : String} (h : f.write = .ok s) :
    visible s.toList = visible f.face.toList := by
  cases f with
  | text t =>
    cases h
    rfl
  | mark m => exact visible_write_mark h

theorem visible_join_of_mapM {fragments : List Fragment} {texts : List String}
    (h : fragments.mapM Fragment.write = .ok texts) :
    visible (Text.join "" texts).toList = fragments.flatMap fun f => visible f.face.toList := by
  induction fragments generalizing texts with
  | nil =>
    cases h
    rfl
  | cons f rest ih =>
    rw [List.mapM_cons] at h
    obtain ⟨s, hs, h⟩ := bind_eq_ok_iff.mp h
    obtain ⟨others, hothers, h⟩ := bind_eq_ok_iff.mp h
    cases h
    have hrest := ih hothers
    rw [toList_join_empty] at hrest ⊢
    rw [List.flatMap_cons, List.flatMap_cons, visible_append, hrest, visible_write hs]

/-! ## Fragments that can be written -/

theorem Fragment.exists_write_iff {f : Fragment} : (∃ s, f.write = .ok s) ↔ f.Writable := by
  have hchoice : ∀ (p : Bool) (s : String) (misfit : Misfit),
      (∃ t, (if p = true then Except.ok s else .error misfit) = Except.ok t) ↔ p = true := by
    intro p s misfit
    cases p <;> simp
  cases f with
  | text t => exact iff_of_true ⟨t, rfl⟩ trivial
  | mark m =>
    cases m with
    | heading level => exact (hchoice _ _ _).trans decide_eq_true_iff
    | number n => exact (hchoice _ _ _).trans isSpellable_iff
    | bullet | quote | fence language | fenceEnd | rule | lineEnd =>
      exact iff_of_true ⟨_, rfl⟩ trivial

/-! ## What a document holds -/

mutual

theorem texts_fragments : (node : Node) → ∀ (label : Place → Mark) (inItem : Bool),
    (node.fragments label inItem).filterMap Fragment.text? = node.shown.filterMap Node.text?
  | .mk tag attrs text children barred, label, inItem => by
    have hmarks : ∀ marks : List Mark, (marks.map Fragment.mark).filterMap Fragment.text? = [] :=
      fun marks => by simp [Fragment.text?]
    have hown : ∀ own : Option String,
        (own.toList.map Fragment.text).filterMap Fragment.text? = own.toList := by
      rintro (_ | s) <;> rfl
    rw [Node.fragments, Node.shown, List.filterMap_append, List.filterMap_append,
      List.filterMap_append, hmarks, hmarks, hown, List.nil_append, List.append_nil]
    have hinner : (if tag.isClosed = true then [] else fragmentsOf
          (fun position place => label (position :: place)) (tag.inItem inItem) children).filterMap
            Fragment.text? =
        (if tag.isClosed = true then [] else shownOf children).filterMap Node.text? := by
      split
      · rfl
      · exact texts_fragmentsOf children _ _
    rw [hinner, List.filterMap_cons]
    cases (Node.mk tag attrs text children barred).text? <;> rfl

theorem texts_fragmentsOf : (nodes : List Node) → ∀ (label : Nat → Place → Mark) (inItem : Bool),
    (fragmentsOf label inItem nodes).filterMap Fragment.text? =
      (shownOf nodes).filterMap Node.text?
  | [], label, inItem => rfl
  | node :: rest, label, inItem => by
    rw [fragmentsOf, shownOf, List.filterMap_append, List.filterMap_append,
      texts_fragments node, texts_fragmentsOf rest]

end

theorem ownImage_eq {attrs text : Value} {tag : Tag} (h : Usable attrs text tag)
    (children : List Node) (barred : Option Kind) :
    ownImage tag attrs = .ok (Node.mk tag attrs text children barred).source?.toList := by
  cases tag with
  | image =>
    obtain ⟨v, hv, -⟩ := h
    rw [ownImage, if_pos rfl, Node.source?, field_eq_of_member hv, hv]
    show Except.ok (if v.counts = true then [v] else []) = _
    split <;> rfl
  | _ => rfl

mutual

theorem images_eq : (node : Node) → node.Readable →
    node.images = .ok (node.all.filterMap Node.source?)
  | .mk tag attrs text children barred, h => by
    obtain ⟨rfl, husable, hchildren⟩ := h
    rw [Node.images, ownImage_eq husable children none, enter, imagesOf_eq children hchildren,
      Node.all, List.filterMap_cons]
    cases (Node.mk tag attrs text children none).source? <;> rfl

theorem imagesOf_eq : (nodes : List Node) → AllReadable nodes →
    imagesOf nodes = .ok ((allOf nodes).filterMap Node.source?)
  | [], _ => rfl
  | node :: rest, h => by
    obtain ⟨hnode, hrest⟩ := h
    rw [imagesOf, images_eq node hnode, imagesOf_eq rest hrest, allOf, List.filterMap_append]
    rfl

end

/-! ## Documents -/

/-- **Documents keep their text**: the images of a document are the sources of its image elements, and
what can be seen of its text are the texts of its text elements, each once and in document order, with
nothing but the marks of the elements around them in between. Only a mark that cannot be written
leaves a document without a text. -/
theorem documents_keep_their_text {document : Value} {node : Node}
    (hnode : Node.ofValue? document = some node) (hreadable : node.Readable) :
    images document = .ok (node.all.filterMap Node.source?) ∧
    node.outline.filterMap Fragment.text? = node.shown.filterMap Node.text? ∧
    (∀ s, visible (tidy s).toList = visible s.toList) ∧
    ((∀ f ∈ node.outline, f.Writable) → ∃ s, text document = .ok s ∧
      visible s.toList = node.outline.flatMap fun f => visible f.face.toList) ∧
    ((∃ f ∈ node.outline, ¬ f.Writable) → ∃ misfit, text document = .error misfit) := by
  have htext := text_eq hnode hreadable
  refine ⟨?_, texts_fragments node _ _, visible_tidy, ?_, ?_⟩
  · unfold images
    rw [hnode]
    exact images_eq node hreadable
  · intro hwritable
    obtain ⟨texts, htexts, -⟩ | ⟨f, hf, misfit, hfails, -⟩ := mapM_cases node.outline
    · refine ⟨tidy (Text.join "" texts), by rw [htext, htexts]; rfl, ?_⟩
      rw [visible_tidy, visible_join_of_mapM htexts]
    · obtain ⟨s, hs⟩ := Fragment.exists_write_iff.mpr (hwritable f hf)
      rw [hs] at hfails
      cases hfails
  · rintro ⟨f, hf, hunwritable⟩
    obtain ⟨texts, -, hwritten⟩ | ⟨_, -, misfit, -, hfails⟩ := mapM_cases node.outline
    · exact absurd (Fragment.exists_write_iff.mp (hwritten f hf)) hunwritable
    · exact ⟨misfit, by rw [htext, hfails]; rfl⟩

/-- A heading, a numbered list with code and a quote in it, and an image with a text inside. -/
def loginDocument : Value :=
  .object [("content", .list [
    .object [("type", .text "heading"), ("attrs", .object [("level", .int 2)]),
      ("content", .list [textPart "Log in"])],
    .object [("type", .text "orderedList"), ("content", .list [
      .object [("type", .text "listItem"), ("content", .list [
        .object [("type", .text "codeBlock"), ("attrs", .object [("language", .text "sh")]),
          ("content", .list [textPart "ssh box"])]])],
      .object [("type", .text "listItem"), ("content", .list [
        .object [("type", .text "blockquote"), ("content", .list [textPart "done?"])]])]])],
    .object [("type", .text "image"), ("attrs", .object [("src", .text "box.png")]),
      ("content", .list [textPart "hidden"])]])]

/-- A text element as it is read. -/
def textNode (s : String) : Node :=
  .mk .text .null (.text s) [] none

def loginNode : Node :=
  .mk .other .null .null [
    .mk .heading (.object [("level", .int 2)]) .null [textNode "Log in"] none,
    .mk .orderedList .null .null [
      .mk .listItem .null .null [
        .mk .codeBlock (.object [("language", .text "sh")]) .null [textNode "ssh box"] none] none,
      .mk .listItem .null .null [.mk .blockquote .null .null [textNode "done?"] none] none] none,
    .mk .image (.object [("src", .text "box.png")]) .null [textNode "hidden"] none] none

theorem writable_number {n : Nat} (h : n < 10) : (Mark.number n).Writable :=
  Nat.lt_of_lt_of_le h (Nat.le_self_pow (by decide) 10)

theorem documents_keep_their_text_login :
    Node.ofValue? loginDocument = some loginNode ∧ loginNode.Readable ∧
    images loginDocument = .ok [.text "box.png"] ∧
    ∃ s, text loginDocument = .ok s ∧
      visible s.toList = "##Login1.```shsshbox```2.>done?".toList := by
  have hnode : Node.ofValue? loginDocument = some loginNode := rfl
  have hreadable : loginNode.Readable := readable_of_isDocument hnode rfl
  obtain ⟨himages, -, -, hwritten, -⟩ := documents_keep_their_text hnode hreadable
  have hwritable : ∀ f ∈ loginNode.outline, f.Writable := by
    have houtline : loginNode.outline = [.mark (.heading 2), .text "Log in", .mark .lineEnd,
        .mark (.number 1), .mark (.fence "sh"), .text "ssh box", .mark .fenceEnd, .mark .lineEnd,
        .mark (.number 2), .mark .quote, .text "done?", .mark .lineEnd, .mark .lineEnd,
        .mark .lineEnd] := rfl
    have hheading : (Mark.heading 2).Writable := ⟨by decide, by decide⟩
    have hfirst : (Mark.number 1).Writable := writable_number (by decide)
    have hsecond : (Mark.number 2).Writable := writable_number (by decide)
    rw [houtline]
    simp only [List.forall_mem_cons]
    exact ⟨hheading, trivial, trivial, hfirst, trivial, trivial, trivial, trivial, hsecond, trivial,
      trivial, trivial, trivial, trivial, nofun⟩
  obtain ⟨s, hs, hvisible⟩ := hwritten hwritable
  exact ⟨hnode, hreadable, himages, s, hs, by rw [hvisible]; cbv⟩

/-- A heading far below the first level. -/
def sunkenHeading : Value :=
  .object [("type", .text "heading"), ("attrs", .object [("level", .int (-9223372036854775809))]),
    ("content", .list [textPart "a"])]

def sunkenNode : Node :=
  .mk .heading (.object [("level", .int (-9223372036854775809))]) .null [textNode "a"] none

/-- A document without a text: its heading has no mark at all, but asks for a number of marks that no
text can have. -/
theorem sunkenHeading_not_written :
    isDocument sunkenHeading = true ∧ Node.ofValue? sunkenHeading = some sunkenNode ∧
    ¬ ∃ s, text sunkenHeading = .ok s ∧
      visible s.toList = sunkenNode.outline.flatMap fun f => visible f.face.toList := by
  refine ⟨rfl, rfl, ?_⟩
  rintro ⟨s, hs, -⟩
  rw [show text sunkenHeading = .error .hugeCount from rfl] at hs
  cases hs

end Helpdesk.RichText
