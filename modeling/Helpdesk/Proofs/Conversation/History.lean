import Helpdesk.Conversation.Turn
import Helpdesk.Proofs.RichText.Outline
import Helpdesk.Proofs.Text.Slice
import Helpdesk.Proofs.Validation

/-!
# Helpdesk.Proofs.Conversation.History — what prompts get to see of a conversation.

The history is one line for each of the last turns, the newest line at the end. Where that is longer
than the limit the text is cut there, so the newest turn is what goes first: its line is whole only
when it fits behind all the lines ahead of it, or when what it says stands further ahead as well.
-/
namespace Helpdesk.Conversation

variable {turns : List Turn} {lines : List String} {number : Nat}

/-! ## Lines -/

/-- The role and the body of a turn can be read. -/
structure Turn.Readable (t : Turn) : Prop where
  role : ∃ name, t.roleName "user" = .ok name
  body : ∃ text, RichText.bodyText (t.body.getD (.text "")) = .ok text

/-- A part of a message, whose text is a text when it has one. -/
def IsPart (part : Value) : Prop :=
  ∃ entries text, part = .object entries ∧
    (Entries.value? "text" entries).getD (.text "") = .text text

/-- A turn as messages have them: said by somebody, in a text or in parts. -/
structure Turn.Typed (t : Turn) : Prop where
  role : ∃ name, t.role = .text name
  body : (∃ text, t.body = some (.text text)) ∨
    ∃ parts, t.body = some (.list parts) ∧ ∀ part ∈ parts, IsPart part

theorem exists_bodyText_of_parts {parts : List Value} (h : ∀ part ∈ parts, IsPart part) :
    ∃ text, RichText.bodyText (.list parts) = .ok text := by
  have htexts : ∃ texts : List String, parts.mapM RichText.partText = .ok (texts.map .text) := by
    induction parts with
    | nil => exact ⟨[], rfl⟩
    | cons part rest ih =>
      obtain ⟨texts, hrest⟩ := ih fun other hmem => h other (List.mem_cons_of_mem _ hmem)
      obtain ⟨entries, text, rfl, htext⟩ := h part List.mem_cons_self
      rw [List.mapM_cons, hrest, RichText.partText, htext]
      split
      · exact ⟨text :: texts, rfl⟩
      · exact ⟨"[图片]" :: texts, rfl⟩
  obtain ⟨texts, htexts⟩ := htexts
  refine ⟨Text.join " " texts, ?_⟩
  rw [RichText.bodyText, htexts]
  show Text.joinPieces " " (texts.map .text) = _
  rw [Text.joinPieces, RichText.textsFrom_map_text]
  rfl

theorem Turn.Typed.readable {t : Turn} (h : t.Typed) : t.Readable := by
  obtain ⟨⟨name, hrole⟩, hbody⟩ := h
  refine ⟨?_, ?_⟩
  · rw [roleName, hrole]
    exact ⟨_, rfl⟩
  · rcases hbody with ⟨text, hbody⟩ | ⟨parts, hbody, hparts⟩
    · rw [hbody]
      exact ⟨text, rfl⟩
    · rw [hbody]
      exact exists_bodyText_of_parts hparts

theorem exists_historyLine_iff (number : Nat) (t : Turn) :
    (∃ line, historyLine number t = .ok line) ↔ t.Readable := by
  constructor
  · rintro ⟨line, hline⟩
    rw [historyLine] at hline
    rcases hrole : t.roleName "user" with misfit | name
    · rw [hrole] at hline
      cases hline
    rcases hbody : RichText.bodyText (t.body.getD (.text "")) with misfit | text
    · rw [hrole, hbody] at hline
      cases hline
    · exact ⟨⟨name, hrole⟩, text, hbody⟩
  · rintro ⟨⟨name, hrole⟩, text, hbody⟩
    rw [historyLine, hrole, hbody]
    exact ⟨_, rfl⟩

/-- One line for each turn, in their order and numbered from `number` on. -/
def Numbered (number : Nat) (turns : List Turn) (lines : List String) : Prop :=
  List.Forall₂ (fun t line => historyLine t.2 t.1 = .ok line) (turns.zipIdx number) lines

theorem Numbered.length_eq (h : Numbered number turns lines) : lines.length = turns.length := by
  rw [← List.Forall₂.length_eq h, List.length_zipIdx]

theorem historyLines_eq_mapM (number : Nat) (turns : List Turn) :
    historyLines number turns = (turns.zipIdx number).mapM fun t => historyLine t.2 t.1 := by
  induction turns generalizing number with
  | nil => rfl
  | cons t rest ih =>
    rw [List.zipIdx_cons, List.mapM_cons, ← ih]
    rfl

theorem historyLines_eq_ok_iff :
    historyLines number turns = .ok lines ↔ Numbered number turns lines := by
  rw [historyLines_eq_mapM, mapM_eq_ok_iff]
  exact Iff.rfl

theorem exists_numbered_iff (number : Nat) :
    (∃ lines, Numbered number turns lines) ↔ ∀ t ∈ turns, t.Readable := by
  simp only [← historyLines_eq_ok_iff, historyLines_eq_mapM]
  exact exists_mapM_zipIdx_eq_ok_iff (fun t number => exists_historyLine_iff number t) turns number

/-! ## The block -/

/-- Lines with their line breaks, as they stand ahead of another line. -/
def ahead (lines : List String) : List Char :=
  lines.flatMap fun line => line.toList ++ ['\n']

theorem toList_join_concat (front : List String) (newest : String) :
    (Text.join "\n" (front ++ [newest])).toList = ahead front ++ newest.toList := by
  induction front with
  | nil => rfl
  | cons line rest ih =>
    have hrest : rest ++ [newest] ≠ [] := by simp
    have hjoin : Text.join "\n" (line :: (rest ++ [newest])) =
        line ++ "\n" ++ Text.join "\n" (rest ++ [newest]) := by
      rcases hcons : rest ++ [newest] with _ | ⟨next, others⟩
      · exact absurd hcons hrest
      · rfl
    rw [List.cons_append, hjoin, String.toList_append, String.toList_append, ih, ahead, ahead,
      List.flatMap_cons]
    simp

/-- A word is in what is left of a text exactly when it stands in the text and ends in time. -/
theorem isInfix_take_iff {α : Type} {word text : List α} {limit : Nat} :
    word <:+: text.take limit ↔
      ∃ before after, text = before ++ word ++ after ∧ before.length + word.length ≤ limit := by
  constructor
  · rintro ⟨before, after, h⟩
    -- What was cut off stands behind the word again.
    refine ⟨before, after ++ text.drop limit, ?_, ?_⟩
    · rw [← List.append_assoc, h, List.take_append_drop]
    · have hlength := congrArg List.length h
      simp only [List.length_append, List.length_take] at hlength
      omega
  · rintro ⟨before, after, rfl, hlength⟩
    have hfits : (before ++ word).length ≤ limit := by rwa [List.length_append]
    rw [List.take_append, List.take_of_length_le hfits]
    exact ⟨before, _, rfl⟩

theorem history_eq_ok_iff {limit : Nat} {block : String} :
    history turns limit = .ok block ↔
      ∃ lines, Numbered 1 (Text.lastItems historyTurns turns) lines ∧
        block.toList = (Text.join "\n" lines).toList.take limit := by
  simp only [← historyLines_eq_ok_iff]
  rw [history]
  rcases historyLines 1 (Text.lastItems historyTurns turns) with misfit | lines
  · constructor
    · intro h
      cases h
    · rintro ⟨lines, h, -⟩
      cases h
  · constructor
    · intro h
      cases h
      refine ⟨lines, rfl, ?_⟩
      rw [String.toList_ofList, Text.upTo_natCast]
    · rintro ⟨_, h, hblock⟩
      cases h
      have hsame : block = String.ofList (Text.upTo (Text.join "\n" lines).toList limit) := by
        rw [← String.toList_inj, String.toList_ofList, Text.upTo_natCast, hblock]
      rw [hsame]
      rfl

/-- What prompts get of some turns: at most eight of them, the last, as numbered lines. What is over
the limit is cut off at the end, where the newest line stands. -/
structure Excerpt (turns : List Turn) (limit : Nat) (front : List String) (newest : String)
    (block : List Char) : Prop where
  numbered : Numbered 1 (Text.lastItems historyTurns turns) (front ++ [newest])
  bounded : block.length ≤ limit
  cut : block = (ahead front).take limit ++ newest.toList.take (limit - (ahead front).length)
  /-- The newest line is in the block when it ends before the limit, wherever else it stands. -/
  whole : newest.toList <:+: block ↔ ∃ before after,
    ahead front ++ newest.toList = before ++ newest.toList ++ after ∧
      before.length + newest.toList.length ≤ limit

/-- **The oldest text is kept**: there is a history exactly when each of the last eight turns can be
read, and it has the lines of these turns in order and no more characters than the limit. It begins
with the oldest of the lines, and the newest one has what they leave. -/
theorem history_keeps_oldest_text (limit : Nat) (hturns : turns ≠ []) :
    ((∃ block, history turns limit = .ok block) ↔
      ∀ t ∈ Text.lastItems historyTurns turns, t.Readable) ∧
    ∀ block, history turns limit = .ok block →
      ∃ front newest, Excerpt turns limit front newest block.toList := by
  refine ⟨?_, fun block hblock => ?_⟩
  · rw [← exists_numbered_iff 1]
    constructor
    · rintro ⟨block, hblock⟩
      obtain ⟨lines, hlines, -⟩ := history_eq_ok_iff.mp hblock
      exact ⟨lines, hlines⟩
    · rintro ⟨lines, hlines⟩
      exact ⟨_, history_eq_ok_iff.mpr ⟨lines, hlines, String.toList_ofList⟩⟩
  · obtain ⟨lines, hlines, hcut⟩ := history_eq_ok_iff.mp hblock
    -- The last of some turns are some turns, so there is a newest line.
    have hsome : lines ≠ [] := by
      have hpos := List.length_pos_iff.mpr hturns
      rw [← List.length_pos_iff, hlines.length_eq, Text.lastItems, List.length_drop, historyTurns]
      omega
    obtain ⟨front, newest, rfl⟩ := (lines.eq_nil_or_concat).resolve_left hsome
    rw [List.concat_eq_append] at hlines hcut
    refine ⟨front, newest, ?_⟩
    rw [hcut, toList_join_concat]
    exact ⟨hlines, List.length_take_le _ _, List.take_append, isInfix_take_iff⟩

/-- A customer who says a little, and then less. -/
def shortTurns : List Turn :=
  [⟨.text "customer", some (.text "aaaa"), none⟩, ⟨.text "customer", some (.text "b"), none⟩]

theorem history_keeps_oldest_text_shortTurns :
    shortTurns ≠ [] ∧ ∃ block front newest, history shortTurns (8 : Nat) = .ok block ∧
      Excerpt shortTurns 8 front newest block.toList := by
  obtain ⟨hexists, hexcerpt⟩ := @history_keeps_oldest_text shortTurns 8 (List.cons_ne_nil _ _)
  have hreadable : ∀ t ∈ Text.lastItems historyTurns shortTurns, t.Readable := by
    intro t ht
    have hmem : t ∈ shortTurns := (Text.lastItems_suffix _ _).subset ht
    simp only [shortTurns, List.mem_cons, List.not_mem_nil, or_false] at hmem
    rcases hmem with rfl | rfl
    all_goals exact Turn.Typed.readable ⟨⟨_, rfl⟩, Or.inl ⟨_, rfl⟩⟩
  obtain ⟨block, hblock⟩ := hexists.mpr hreadable
  obtain ⟨front, newest, h⟩ := hexcerpt block hblock
  exact ⟨List.cons_ne_nil _ _, block, front, newest, hblock, h⟩

/-- Under a limit of eight characters the newest line, which has eight, is gone. -/
theorem history_drops_newest_line :
    history shortTurns 8 = .ok "1. 用户: a" ∧
      (shortTurns[1]?).map (historyLine 2) = some (.ok "2. 用户: b") ∧
      "2. 用户: b".length = 8 ∧ ¬ "2. 用户: b".toList <:+: "1. 用户: a".toList := by
  refine ⟨rfl, rfl, rfl, fun h => ?_⟩
  have hsame := h.eq_of_length (by decide)
  revert hsame
  decide

end Helpdesk.Conversation
