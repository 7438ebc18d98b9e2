import Helpdesk.Proofs.RichText.Outline

/-!
# Helpdesk.Proofs.RichText.Labels — how the items of a document's lists are labelled.

An item ought to be labelled by the list it belongs to: with a dash, or with its number in that list.
What decides is the last list that begins before the item in document order, and the number of items
that begin in between; the list of the item is that list only as long as no earlier item of it holds
a list of its own. So an item behind a nested list goes on with the labels of the nested one.
-/
namespace Helpdesk.RichText

/-! ## Lists and their items -/

namespace Node

/-- The elements right inside an element. -/
def children : Node → List Node
  | .mk _ _ _ children _ => children

def isList : Node → Bool
  | .mk .bulletList _ _ _ _ | .mk .orderedList _ _ _ _ => true
  | _ => false

def isOrdered : Node → Bool
  | .mk .orderedList _ _ _ _ => true
  | _ => false

def isItem : Node → Bool
  | .mk .listItem _ _ _ _ => true
  | _ => false

/-- The number that a list says it starts with; one where it says nothing. -/
def start : Node → Int
  | .mk _ attrs _ _ _ => numberIn (attrs.field "start")

/-- The label of the item of a list that comes behind some others of its children. -/
def ownLabel (earlier : List Node) (list : Node) : Mark :=
  if list.isOrdered then .number (list.start + earlier.countP isItem) else .bullet

/-- The label with which a list goes on after a number of items; zero is no number to start with. -/
def labelAfter (count : Nat) : Node → Mark
  | .mk .orderedList attrs _ _ _ => .number (numberOf "start" attrs + count)
  | _ => .bullet

/-- An element is shown at a place in another one. -/
inductive Holds : Node → Place → Node → Prop
  | here (node : Node) : Holds node [] node
  | inside {tag : Tag} {attrs text : Value} {earlier later : List Node} {barred : Option Kind}
      {child node : Node} {place : Place} (hopen : tag.isClosed = false) (hholds : Holds child place node) :
      Holds (.mk tag attrs text (earlier ++ child :: later) barred) (earlier.length :: place) node

end Node

/-- An item of a list, shown at a place: the list, the children in front of the item, and the item. -/
structure Node.HasItem (node : Node) (place : Place) (list : Node) (earlier : List Node) : Prop where
  holds : node.Holds place list
  isList : list.isList = true
  item : ∃ item later, list.children = earlier ++ item :: later ∧ item.isItem = true

/-- Items are labelled by the lists they belong to. -/
def FollowsLists (node : Node) (label : Place → Mark) : Prop :=
  ∀ place list earlier, node.HasItem place list earlier →
    label (place ++ [earlier.length]) = list.ownLabel earlier

/-- The text of a document whose items are labelled by place. -/
def labelled (node : Node) (label : Place → Mark) : Except Misfit String :=
  ((node.fragments label false).mapM Fragment.write).map fun texts => tidy (Text.join "" texts)

/-- The last list among some elements, and the elements behind where it begins. -/
def lastList : List Node → Option (Node × List Node)
  | [] => none
  | node :: rest => (lastList rest).or (if node.isList then some (node, rest) else none)

/-- Nothing in front of an item disturbs the labels of its list: no list begins there, and in a numbered
list no further items do, nor does the list ask to start with zero. -/
structure Undisturbed (list : Node) (earlier : List Node) : Prop where
  noList : ∀ other ∈ shownOf earlier, other.isList = false
  noItem : list.isOrdered = true → (shownOf earlier).countP Node.isItem = earlier.countP Node.isItem
  start : list.isOrdered = true → list.start ≠ 0

/-! ## The counter as a fold -/

/-- The labels after an element begins. -/
def Labels.step (l : Labels) : Node → Labels
  | .mk tag attrs _ _ _ => l.opened attrs tag

mutual

/-- What follows an element is labelled by what is shown in it, element by element. -/
theorem after_eq_foldl : (node : Node) → ∀ l : Labels, node.after l = node.shown.foldl Labels.step l
  | .mk tag attrs text children barred, l => by
    rw [Node.after, Node.shown, List.foldl_cons]
    split
    · rename_i hclosed
      -- A closed element is no list and no item, so the labels stay as they are.
      cases tag with
      | text | hardBreak | horizontalRule | image => rfl
      | _ => cases hclosed
    · exact afterAll_eq_foldl children _

theorem afterAll_eq_foldl : (nodes : List Node) → ∀ l : Labels,
    afterAll nodes l = (shownOf nodes).foldl Labels.step l
  | [], l => rfl
  | node :: rest, l => by
    rw [afterAll, shownOf, List.foldl_append, ← after_eq_foldl node l, afterAll_eq_foldl rest]

end

theorem labelIn_append (earlier : List Node) (node : Node) (later : List Node) (l : Labels)
    (place : Place) :
    labelIn (earlier ++ node :: later) l earlier.length place =
      node.labelAt (afterAll earlier l) place := by
  induction earlier generalizing l with
  | nil => rfl
  | cons first earlier ih => exact ih (first.after l)

/-- The label of an item is read off the elements that begin between its list and itself. -/
theorem labelAt_item {node list : Node} {place : Place} {earlier later : List Node} {item : Node}
    (h : node.Holds place list) (hchildren : list.children = earlier ++ item :: later) :
    ∀ l : Labels, ∃ m : Labels,
      node.labelAt l (place ++ [earlier.length]) = ((list :: shownOf earlier).foldl Labels.step m).mark := by
  induction h with
  | here list =>
    intro l
    obtain ⟨tag, attrs, text, children, barred⟩ := list
    cases hchildren
    refine ⟨l, ?_⟩
    show labelIn (earlier ++ item :: later) (l.opened attrs tag) earlier.length [] = _
    rw [labelIn_append, List.foldl_cons, ← afterAll_eq_foldl]
    obtain ⟨tag, attrs, text, children, barred⟩ := item
    rfl
  | @inside tag attrs text front back barred child list place hopen hholds ih =>
    intro l
    obtain ⟨m, hm⟩ := ih hchildren (afterAll front (l.opened attrs tag))
    refine ⟨m, ?_⟩
    show labelIn (front ++ child :: back) (l.opened attrs tag) front.length
      (place ++ [earlier.length]) = _
    rw [labelIn_append, hm]

theorem lastList_eq_none_iff {nodes : List Node} :
    lastList nodes = none ↔ ∀ node ∈ nodes, node.isList = false := by
  induction nodes with
  | nil => simp [lastList]
  | cons node rest ih => simp [lastList, ih, and_comm]

theorem step_of_noList {node : Node} (h : node.isList = false) (l : Labels) :
    l.step node = if node.isItem then l.opened .null .listItem else l := by
  obtain ⟨tag, attrs, text, children, barred⟩ := node
  cases tag with
  | bulletList | orderedList => cases h
  | _ => rfl

theorem mark_foldl_step {nodes : List Node} (h : ∀ node ∈ nodes, node.isList = false) (l : Labels) :
    (nodes.foldl Labels.step l).mark =
      if l.ordered then .number (l.next + nodes.countP Node.isItem) else .bullet := by
  induction nodes generalizing l with
  | nil =>
    rw [List.foldl_nil, Labels.mark, List.countP_nil, Int.natCast_zero, Int.add_zero]
  | cons node rest ih =>
    rw [List.foldl_cons, ih (fun other hother => h other (List.mem_cons_of_mem _ hother)),
      step_of_noList (h node List.mem_cons_self), List.countP_cons]
    cases hitem : node.isItem with
    | false => simp
    | true =>
      cases hordered : l.ordered with
      | false => simp [Labels.opened, hordered]
      | true =>
        have hnext : l.next + 1 + (rest.countP Node.isItem : Int) =
            l.next + ((rest.countP Node.isItem + 1 : Nat) : Int) := by omega
        simp [Labels.opened, hordered, hnext]

/-- **The last list decides** how the next item is labelled. -/
theorem mark_foldl_step_of_lastList {nodes behind : List Node} {last : Node}
    (h : lastList nodes = some (last, behind)) (l : Labels) :
    (nodes.foldl Labels.step l).mark = last.labelAfter (behind.countP Node.isItem) := by
  induction nodes generalizing l with
  | nil => cases h
  | cons node rest ih =>
    rw [lastList] at h
    rcases hrest : lastList rest with _ | found
    · rw [hrest, Option.none_or] at h
      split at h
      · rename_i hlist
        obtain ⟨rfl, rfl⟩ := Prod.mk.inj (Option.some.inj h)
        rw [List.foldl_cons, mark_foldl_step (lastList_eq_none_iff.mp hrest)]
        obtain ⟨tag, attrs, text, children, barred⟩ := node
        cases tag with
        | bulletList | orderedList => rfl
        | _ => cases hlist
      · cases h
    · rw [hrest, Option.some_or] at h
      exact ih (hrest.trans h) (l.step node)

theorem numberIn_orElse {v : Value} (h : numberIn v ≠ 0) :
    numberIn (v.orElse (.int 1)) = numberIn v := by
  cases v with
  | int n =>
    have hcounts : (Value.int n).counts = true := by simpa [Value.counts, numberIn] using h
    rw [Value.orElse, if_pos hcounts]
  | _ =>
    unfold Value.orElse
    split <;> rfl

/-- A list whose items are not disturbed labels them itself. -/
theorem Undisturbed.labelAfter_eq {list last : Node} {earlier behind : List Node}
    (h : Undisturbed list earlier) (hlist : list.isList = true)
    (hlast : lastList (list :: shownOf earlier) = some (last, behind)) :
    last.labelAfter (behind.countP Node.isItem) = list.ownLabel earlier := by
  rw [lastList, lastList_eq_none_iff.mpr h.noList, Option.none_or, if_pos hlist] at hlast
  obtain ⟨rfl, rfl⟩ := Prod.mk.inj (Option.some.inj hlast)
  obtain ⟨tag, attrs, text, children, barred⟩ := list
  cases tag with
  | bulletList => rfl
  | orderedList =>
    show Mark.number _ = Mark.number _
    rw [h.noItem rfl, numberOf, numberIn_orElse (h.start rfl)]
    rfl
  | _ => cases hlist

/-! ## Documents -/

/-- **Items follow the last list**: what is labelled in a document is labelled by place, and the label of
an item of a list is the one with which the last list that begins before it goes on. That is the label of
its own list when nothing in front of the item disturbs it. -/
theorem items_follow_last_list {document : Value} {node : Node}
    (hnode : Node.ofValue? document = some node) (hreadable : node.Readable) :
    text document = labelled node (node.labelAt .start) ∧
    ∀ place list earlier, node.HasItem place list earlier →
      (∃ last behind, lastList (list :: shownOf earlier) = some (last, behind) ∧
        node.labelAt .start (place ++ [earlier.length]) =
          last.labelAfter (behind.countP Node.isItem)) ∧
      (Undisturbed list earlier →
        node.labelAt .start (place ++ [earlier.length]) = list.ownLabel earlier) := by
  refine ⟨text_eq hnode hreadable, ?_⟩
  rintro place list earlier ⟨hholds, hlist, item, later, hchildren, -⟩
  obtain ⟨m, hm⟩ := labelAt_item hholds hchildren .start
  obtain ⟨⟨last, behind⟩, hlast⟩ : ∃ found, lastList (list :: shownOf earlier) = some found := by
    refine Option.ne_none_iff_exists'.mp fun hnone => ?_
    rw [lastList_eq_none_iff.mp hnone list List.mem_cons_self] at hlist
    cases hlist
  have hlabel := mark_foldl_step_of_lastList hlast m
  rw [hm, hlabel]
  exact ⟨⟨last, behind, hlast, rfl⟩, fun hquiet => hquiet.labelAfter_eq hlist hlast⟩

/-- A list with dashes, in whose first item stands a numbered list. -/
def nestedLists : Value :=
  .object [("type", .text "bulletList"), ("content", .list [
    .object [("type", .text "listItem"), ("content", .list [textPart "a",
      .object [("type", .text "orderedList"), ("content", .list [
        .object [("type", .text "listItem"), ("content", .list [textPart "b"])]])]])],
    .object [("type", .text "listItem"), ("content", .list [textPart "c"])]])]

/-- An item of one text. -/
def itemNode (s : String) : Node :=
  .mk .listItem .null .null [textNode s] none

def numberedNode : Node :=
  .mk .orderedList .null .null [itemNode "b"] none

def nestingNode : Node :=
  .mk .listItem .null .null [textNode "a", numberedNode] none

def nestedNode : Node :=
  .mk .bulletList .null .null [nestingNode, itemNode "c"] none

/-- The second item with a dash. -/
theorem hasItem_nestedNode : nestedNode.HasItem [] nestedNode [nestingNode] :=
  ⟨.here nestedNode, rfl, itemNode "c", [], rfl, rfl⟩

/-- The item of the numbered list. -/
theorem hasItem_numberedNode : nestedNode.HasItem [0, 1] numberedNode [] := by
  have hinner : (Node.mk .listItem .null .null ([textNode "a"] ++ [numberedNode]) none).Holds [1]
      numberedNode := .inside rfl (.here numberedNode)
  have houter : (Node.mk .bulletList .null .null ([] ++ [nestingNode, itemNode "c"]) none).Holds [0, 1]
      numberedNode := .inside rfl hinner
  exact ⟨houter, rfl, itemNode "b", [], rfl, rfl⟩

theorem items_follow_last_list_nested :
    Node.ofValue? nestedLists = some nestedNode ∧ nestedNode.Readable ∧
    nestedNode.HasItem [] nestedNode [nestingNode] ∧ nestedNode.labelAt .start [1] = .number 2 ∧
    nestedNode.HasItem [0, 1] numberedNode [] ∧ Undisturbed numberedNode [] ∧
    nestedNode.labelAt .start [0, 1, 0] = .number 1 := by
  have hnode : Node.ofValue? nestedLists = some nestedNode := rfl
  have hreadable : nestedNode.Readable := readable_of_isDocument hnode rfl
  obtain ⟨-, hlabels⟩ := items_follow_last_list hnode hreadable
  have hquiet : Undisturbed numberedNode [] := ⟨nofun, fun _ => rfl, fun _ => by decide⟩
  obtain ⟨⟨last, behind, hlast, hsecond⟩, -⟩ := hlabels _ _ _ hasItem_nestedNode
  obtain ⟨-, hinner⟩ := hlabels _ _ _ hasItem_numberedNode
  refine ⟨hnode, hreadable, hasItem_nestedNode, ?_, hasItem_numberedNode, hquiet,
    hinner hquiet⟩
  cases hlast
  exact hsecond

/-- Behind a nested list the items of a list with dashes are numbered, whatever labels the lists call
for. -/
theorem dashes_become_numbers :
    isDocument nestedLists = true ∧ Node.ofValue? nestedLists = some nestedNode ∧
    ¬ ∃ label, FollowsLists nestedNode label ∧ text nestedLists = labelled nestedNode label := by
  refine ⟨rfl, rfl, ?_⟩
  rintro ⟨label, hfollows, htext⟩
  have hfirst : label [0] = .bullet :=
    hfollows [] nestedNode [] ⟨.here nestedNode, rfl, nestingNode, [itemNode "c"], rfl, rfl⟩
  have hsecond : label [1] = .bullet := hfollows _ _ _ hasItem_nestedNode
  have hinner : label [0, 1, 0] = .number 1 := hfollows _ _ _ hasItem_numberedNode
  have hfragments : nestedNode.fragments label false = [.mark (label [0]), .text "a",
      .mark (label [0, 1, 0]), .text "b", .mark .lineEnd, .mark .lineEnd, .mark .lineEnd,
      .mark (label [1]), .text "c", .mark .lineEnd, .mark .lineEnd] := rfl
  have hclaimed : labelled nestedNode label = .ok "- a1. b\n\n- c" := by
    rw [labelled, hfragments, hfirst, hsecond, hinner]
    rfl
  have hwritten : text nestedLists = .ok "- a1. b\n\n2. c" := rfl
  rw [hclaimed, hwritten] at htext
  exact absurd (Except.ok.inj htext) (by decide)

end Helpdesk.RichText
