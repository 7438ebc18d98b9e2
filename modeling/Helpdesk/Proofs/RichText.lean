import Helpdesk.Proofs.Validation
import Helpdesk.RichText
import Mathlib.Algebra.Group.Nat.Defs

/-!
# Helpdesk.Proofs.RichText — documents as an editor writes them can be read.

Reading passes over what is missing or unknown, so `Proper` asks for little: nothing but a list
stands in the place of the children, and the attributes that are made use of are missing or of the
right kind. Two bounds come with it. A heading is marked as often as its level says, and the number of
a list item has to be spelled, which limits where numbered lists start and how many items a document
has. Proper documents are rendered, their images are found, and they are bodies of messages.
-/
namespace Helpdesk.RichText

/-! ## Elements as an editor writes them -/

/-- An attribute that is missing, or does not count, or holds what it should. -/
def Attribute (name : String) (attrs : Value) (P : Value → Prop) : Prop :=
  ∃ v, attrs.member name = .ok v ∧ (v.counts = true → P v)

/-- What is made use of in an element is of the right kind; numbered lists start within a bound. -/
def Fits (bound : Nat) (attrs text : Value) : Tag → Prop
  | .text => text.counts = true → ∃ s, text = .text s
  | .image => Attribute "src" attrs fun _ => True
  | .heading => Attribute "level" attrs fun v => ∃ n, v = .int n ∧ isCount n = true
  | .orderedList => Attribute "start" attrs fun v => ∃ n, v = .int n ∧ n.natAbs ≤ bound
  | .codeBlock => Attribute "language" attrs fun v => ∃ s, v = .text s
  | _ => True

mutual

/-- An element as an editor writes it, with everything in it. -/
def Node.Proper (bound : Nat) : Node → Prop
  | .mk tag attrs text children barred =>
    barred = none ∧ Fits bound attrs text tag ∧ AllProper bound children

/-- Elements as an editor writes them. -/
def AllProper (bound : Nat) : List Node → Prop
  | [] => True
  | node :: rest => node.Proper bound ∧ AllProper bound rest

end

mutual

/-- The number of list items in an element, the element itself included. -/
def Node.items : Node → Nat
  | .mk tag _ _ children _ => (if tag = .listItem then 1 else 0) + itemsOf children

/-- The number of list items in several elements. -/
def itemsOf : List Node → Nat
  | [] => 0
  | node :: rest => node.items + itemsOf rest

end

/-- A document as an editor writes it. Its lists count on from where they start, so the largest start
and all items together have to leave a number that can be spelled. -/
def Proper (document : Value) : Prop :=
  ∀ node, Node.ofValue? document = some node →
    ∃ bound, node.Proper bound ∧ bound + 1 + node.items < 10 ^ Decimal.maxSpelledDigits

/-! ## Attributes -/

theorem Attribute.orElse {name : String} {attrs : Value} {P : Value → Prop}
    (h : Attribute name attrs P) (other : Value) (hother : P other) :
    ∃ v, attrs.member name = .ok v ∧ P (v.orElse other) := by
  obtain ⟨v, hv, hP⟩ := h
  refine ⟨v, hv, ?_⟩
  unfold Value.orElse
  split
  · rename_i hcounts
    exact hP hcounts
  · exact hother

theorem exists_headingMark {bound : Nat} {attrs text : Value} (h : Fits bound attrs text .heading) :
    ∃ mark, headingMark attrs = .ok mark := by
  obtain ⟨v, hv, n, hn, hcount⟩ := Attribute.orElse h (.int 1) ⟨1, rfl, by decide⟩
  refine ⟨Text.repeated "#" n.toNat ++ " ", ?_⟩
  refine bind_eq_ok_iff.mpr ⟨v, hv, ?_⟩
  rw [hn]
  refine bind_eq_ok_iff.mpr ⟨n, rfl, ?_⟩
  rw [if_pos hcount]
  rfl

/-- A numbered list that says nothing starts with one. -/
theorem exists_listStart {bound : Nat} {attrs text : Value} (h : Fits bound attrs text .orderedList) :
    ∃ n, listStart attrs = .ok n ∧ n.natAbs ≤ bound + 1 := by
  have hweaker : Attribute "start" attrs fun v => ∃ n, v = .int n ∧ n.natAbs ≤ bound + 1 := by
    obtain ⟨v, hv, hfits⟩ := h
    refine ⟨v, hv, fun hcounts => ?_⟩
    obtain ⟨n, hn, hbound⟩ := hfits hcounts
    exact ⟨n, hn, by omega⟩
  obtain ⟨v, hv, n, hn, hbound⟩ := hweaker.orElse (.int 1) ⟨1, rfl, by omega⟩
  refine ⟨n, ?_, hbound⟩
  refine bind_eq_ok_iff.mpr ⟨v, hv, ?_⟩
  rw [hn]
  rfl

theorem exists_codeFence {bound : Nat} {attrs text : Value} (h : Fits bound attrs text .codeBlock) :
    ∃ fence, codeFence attrs = .ok fence := by
  obtain ⟨v, hv, language, hlanguage⟩ := Attribute.orElse h (.text "") ⟨"", rfl⟩
  refine ⟨"\n```" ++ language ++ "\n", ?_⟩
  refine bind_eq_ok_iff.mpr ⟨v, hv, ?_⟩
  rw [hlanguage]
  rfl

theorem ofValue_text {bound : Nat} {attrs text : Value} (h : Fits bound attrs text .text) :
    ∃ s, Text.Piece.ofValue (text.orElse (.text "")) = .text s := by
  unfold Value.orElse
  split
  · rename_i hcounts
    obtain ⟨s, rfl⟩ := h hcounts
    exact ⟨s, rfl⟩
  · exact ⟨"", rfl⟩

/-! ## Images -/

theorem exists_ownImage {bound : Nat} {tag : Tag} {attrs text : Value}
    (h : Fits bound attrs text tag) : ∃ own, ownImage tag attrs = .ok own := by
  unfold ownImage
  split
  · rename_i htag
    rw [htag] at h
    obtain ⟨v, hv, -⟩ := h
    exact ⟨_, bind_eq_ok_iff.mpr ⟨v, hv, rfl⟩⟩
  · exact ⟨[], rfl⟩

mutual

theorem exists_nodeImages {bound : Nat} :
    (node : Node) → node.Proper bound → ∃ found, node.images = .ok found
  | .mk tag attrs text children barred, h => by
    obtain ⟨rfl, hfits, hchildren⟩ := h
    obtain ⟨own, hown⟩ := exists_ownImage hfits
    obtain ⟨inner, hinner⟩ := exists_imagesOf children hchildren
    refine ⟨own ++ inner, ?_⟩
    rw [Node.images]
    exact bind_eq_ok_iff.mpr ⟨own, hown, bind_eq_ok_iff.mpr ⟨inner, hinner, rfl⟩⟩

theorem exists_imagesOf {bound : Nat} :
    (nodes : List Node) → AllProper bound nodes → ∃ found, imagesOf nodes = .ok found
  | [], _ => ⟨[], rfl⟩
  | node :: rest, h => by
    obtain ⟨hnode, hrest⟩ := h
    obtain ⟨first, hfirst⟩ := exists_nodeImages node hnode
    obtain ⟨others, hothers⟩ := exists_imagesOf rest hrest
    refine ⟨first ++ others, ?_⟩
    rw [imagesOf]
    exact bind_eq_ok_iff.mpr ⟨first, hfirst, bind_eq_ok_iff.mpr ⟨others, hothers, rfl⟩⟩

end

/-! ## Text -/

theorem isSpellable_iff {n : Int} :
    isSpellable n = true ↔ n.natAbs < 10 ^ Decimal.maxSpelledDigits :=
  decide_eq_true_iff.trans (Nat.length_toDigits_le_iff (by decide) (by decide))

/-- Something is rendered to texts, and the number of the next item stays within a limit. -/
def Renders (rendered : Rendered) (limit : Nat) : Prop :=
  ∃ pieces l, rendered = .ok (pieces, l) ∧ (∀ p ∈ pieces, ∃ s, p = .text s) ∧ l.next.natAbs ≤ limit

namespace Renders

variable {rendered : Rendered} {limit : Nat}

theorem mono (h : Renders rendered limit) {more : Nat} (hmore : limit ≤ more) :
    Renders rendered more := by
  obtain ⟨pieces, l, hrendered, htexts, hnext⟩ := h
  exact ⟨pieces, l, hrendered, htexts, by omega⟩

theorem single (s : String) {l : Labels} (hl : l.next.natAbs ≤ limit) :
    Renders (.ok ([.text s], l)) limit := by
  refine ⟨_, l, rfl, ?_, hl⟩
  intro p hp
  exact ⟨s, List.mem_singleton.mp hp⟩

theorem before (h : Renders rendered limit) (after : String) :
    Renders (rendered.before after) limit := by
  obtain ⟨pieces, l, rfl, htexts, hnext⟩ := h
  refine ⟨pieces ++ [.text after], l, rfl, ?_, hnext⟩
  intro p hp
  rcases List.mem_append.mp hp with hp | hp
  · exact htexts p hp
  · exact ⟨after, List.mem_singleton.mp hp⟩

theorem between (h : Renders rendered limit) (before after : String) :
    Renders (Rendered.between before after rendered) limit := by
  obtain ⟨pieces, l, rfl, htexts, hnext⟩ := h
  refine ⟨.text before :: (pieces ++ [.text after]), l, rfl, ?_, hnext⟩
  intro p hp
  rcases List.mem_cons.mp hp with rfl | hp
  · exact ⟨before, rfl⟩
  · rcases List.mem_append.mp hp with hp | hp
    · exact htexts p hp
    · exact ⟨after, List.mem_singleton.mp hp⟩

theorem bind {α : Type} {found : Except Misfit α} {next : α → Rendered} {a : α}
    (hfound : found = .ok a) (h : Renders (next a) limit) : Renders (found >>= next) limit := by
  rw [hfound]
  exact h

end Renders

/-- The item after a numbered one has the next number. -/
theorem exists_take {l : Labels} {limit : Nat} (hl : l.next.natAbs ≤ limit)
    (hroom : limit < 10 ^ Decimal.maxSpelledDigits) :
    ∃ label after, l.take = .ok (label, after) ∧ after.next.natAbs ≤ limit + 1 := by
  unfold Labels.take
  split
  · rw [if_pos (isSpellable_iff.mpr (Nat.lt_of_le_of_lt hl hroom))]
    refine ⟨_, _, rfl, ?_⟩
    simp only
    omega
  · exact ⟨_, _, rfl, by omega⟩

mutual

/-- Each list item moves the number of the next one on by at most one. -/
theorem renders_node {bound : Nat} : (node : Node) → node.Proper bound → ∀ (inItem : Bool)
    (l : Labels) (count : Nat), l.next.natAbs ≤ bound + 1 + count →
      bound + 1 + count + node.items < 10 ^ Decimal.maxSpelledDigits →
        Renders (node.render inItem l) (bound + 1 + count + node.items)
  | .mk tag attrs text children barred, h, inItem, l, count, hl, hroom => by
    obtain ⟨rfl, hfits, hchildren⟩ := h
    rw [Node.items] at hroom ⊢
    have hinner : ∀ (inItem : Bool) (l : Labels), l.next.natAbs ≤ bound + 1 + count →
        bound + 1 + count + itemsOf children < 10 ^ Decimal.maxSpelledDigits →
          Renders (enter none (renderAll inItem children l)) (bound + 1 + count + itemsOf children) :=
      fun inItem l hl hroom => renders_all children hchildren inItem l count hl hroom
    unfold Node.render
    cases tag with
    | text =>
      obtain ⟨s, hs⟩ := ofValue_text hfits
      simp only [hs]
      exact .single s (by omega)
    | paragraph =>
      have hbody := hinner inItem l hl (by omega)
      cases inItem with
      | true => exact hbody.mono (by omega)
      | false => exact (hbody.before "\n").mono (by omega)
    | heading =>
      obtain ⟨mark, hmark⟩ := exists_headingMark hfits
      refine .bind hmark ?_
      exact ((hinner false l hl (by omega)).between mark "\n").mono (by omega)
    | hardBreak => exact .single "\n" (by omega)
    | bulletList =>
      have hbody := hinner false { l with ordered := false } hl (by omega)
      exact (hbody.before "\n").mono (by omega)
    | orderedList =>
      obtain ⟨start, hstart, hbound⟩ := exists_listStart hfits
      refine .bind hstart ?_
      -- Its items are counted from where it starts, whatever was counted around it.
      have hstarts : start.natAbs ≤ bound + 1 + count := by omega
      exact ((hinner false ⟨true, start⟩ hstarts (by omega)).before "\n").mono (by omega)
    | listItem =>
      simp only [if_true] at hroom ⊢
      obtain ⟨label, after, htake, hafter⟩ := exists_take hl (by omega)
      refine .bind htake ?_
      -- The item has used up one number, so what is in it is counted on from the next.
      have hbody := renders_all children hchildren true after (count + 1) (by omega) (by omega)
      exact (hbody.between label "\n").mono (by omega)
    | blockquote => exact ((hinner false l hl (by omega)).between "> " "\n").mono (by omega)
    | codeBlock =>
      obtain ⟨fence, hfence⟩ := exists_codeFence hfits
      refine .bind hfence ?_
      exact ((hinner false l hl (by omega)).between fence "\n```\n").mono (by omega)
    | horizontalRule => exact .single "\n---\n" (by omega)
    | image => exact ⟨[], l, rfl, fun p hp => absurd hp List.not_mem_nil, by omega⟩
    | other => exact (hinner inItem l hl (by omega)).mono (by omega)

theorem renders_all {bound : Nat} : (nodes : List Node) → AllProper bound nodes → ∀ (inItem : Bool)
    (l : Labels) (count : Nat), l.next.natAbs ≤ bound + 1 + count →
      bound + 1 + count + itemsOf nodes < 10 ^ Decimal.maxSpelledDigits →
        Renders (renderAll inItem nodes l) (bound + 1 + count + itemsOf nodes)
  | [], _, inItem, l, count, hl, _ =>
    ⟨[], l, rfl, fun p hp => absurd hp List.not_mem_nil, hl⟩
  | node :: rest, h, inItem, l, count, hl, hroom => by
    obtain ⟨hnode, hrest⟩ := h
    rw [itemsOf] at hroom ⊢
    obtain ⟨first, middle, hfirst, htexts, hmiddle⟩ :=
      renders_node node hnode inItem l count hl (by omega)
    obtain ⟨others, last, hothers, hmore, hlast⟩ :=
      renders_all rest hrest inItem middle (count + node.items) (by omega) (by omega)
    refine ⟨first ++ others, last, ?_, ?_, by omega⟩
    · rw [renderAll]
      exact bind_eq_ok_iff.mpr ⟨_, hfirst, bind_eq_ok_iff.mpr ⟨_, hothers, rfl⟩⟩
    · intro p hp
      rcases List.mem_append.mp hp with hp | hp
      · exact htexts p hp
      · exact hmore p hp

end

theorem exists_textsFrom {pieces : List Text.Piece} (h : ∀ p ∈ pieces, ∃ s, p = .text s)
    (position : Nat) : ∃ texts, Text.Piece.textsFrom position pieces = .ok texts := by
  induction pieces generalizing position with
  | nil => exact ⟨[], rfl⟩
  | cons p rest ih =>
    obtain ⟨s, rfl⟩ := h p List.mem_cons_self
    obtain ⟨texts, htexts⟩ := ih (fun p hp => h p (List.mem_cons_of_mem _ hp)) (position + 1)
    exact ⟨s :: texts, map_eq_ok_iff.mpr ⟨texts, htexts, rfl⟩⟩

/-! ## Documents -/

theorem exists_images {document : Value} (h : Proper document) :
    ∃ found, images document = .ok found := by
  unfold images
  rcases hnode : Node.ofValue? document with _ | node
  · exact ⟨[], rfl⟩
  · obtain ⟨bound, hproper, -⟩ := h node hnode
    exact exists_nodeImages node hproper

theorem exists_text {document : Value} (h : Proper document) : ∃ s, text document = .ok s := by
  unfold text
  split
  · rename_i s
    exact ⟨Text.trim s, rfl⟩
  rcases hnode : Node.ofValue? document with _ | node
  · exact ⟨"", rfl⟩
  · obtain ⟨bound, hproper, hroom⟩ := h node hnode
    obtain ⟨pieces, l, hrender, htexts, -⟩ :=
      renders_node node hproper false ⟨false, 1⟩ 0 (by simp) (by omega)
    obtain ⟨texts, hjoined⟩ := exists_textsFrom htexts 0
    refine ⟨tidy (Text.join "" texts), ?_⟩
    refine bind_eq_ok_iff.mpr ⟨(pieces, l), hrender, ?_⟩
    exact bind_eq_ok_iff.mpr ⟨_, map_eq_ok_iff.mpr ⟨texts, hjoined, rfl⟩, rfl⟩

/-- **Proper documents can be read**: each of them is the body of a message. -/
theorem exists_messageBody {document : Value} (h : Proper document) :
    ∃ body, messageBody document = .ok body := by
  obtain ⟨found, hfound⟩ := exists_images h
  obtain ⟨s, hs⟩ := exists_text h
  unfold messageBody
  rw [hfound, hs]
  show ∃ body, (if found.isEmpty then _ else _) = _
  split
  · exact ⟨_, rfl⟩
  · exact ⟨_, rfl⟩

/-- A document without list items needs no number. -/
theorem proper_of_items_eq_zero {document : Value} {node : Node}
    (hnode : Node.ofValue? document = some node) (hproper : node.Proper 0) (hitems : node.items = 0) :
    Proper document := by
  intro other hother
  rw [hnode] at hother
  obtain rfl := Option.some.inj hother
  refine ⟨0, hproper, ?_⟩
  rw [hitems]
  exact Nat.one_lt_pow (by decide) (by decide)

/-- What the engine writes itself can be read back. -/
theorem proper_ofReply (reply : String) : Proper (ofReply reply) := by
  unfold ofReply
  by_cases hblank : Text.isBlankText reply = true
  · rw [if_pos hblank]
    exact proper_of_items_eq_zero rfl ⟨rfl, trivial, trivial⟩ rfl
  · rw [if_neg hblank]
    have htext : AllProper 0 [.mk .text .null (.text reply) [] none] :=
      ⟨⟨rfl, fun _ => ⟨reply, rfl⟩, trivial⟩, trivial⟩
    exact proper_of_items_eq_zero rfl ⟨rfl, trivial, ⟨rfl, trivial, htext⟩, trivial⟩ rfl

end Helpdesk.RichText
