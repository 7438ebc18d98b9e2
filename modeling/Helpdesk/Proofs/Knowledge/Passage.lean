import Helpdesk.Knowledge.Passage
import Helpdesk.Proofs.Text.Blank

/-!
# Helpdesk.Proofs.Knowledge.Passage — passages fit and lose nothing that can be seen.

Taking a text apart drops blanks only, and so does putting the parts together, so what can be seen is
followed through both. `Packing.Adds` says what packing a piece comes to: it shows the piece after what
was there, and keeps the finished passages trimmed and all of them within the limit. Every way in which
a piece is packed is one such step.
-/
namespace Helpdesk.Knowledge

open Text

/-! ## Taking text apart -/

theorem visible_takeWhile_lineFeeds (cs : List Char) : visible (cs.takeWhile (· == '\n')) = [] := by
  refine visible_eq_nil_iff.mpr fun c hc => ?_
  have hfeed : c = '\n' := by simpa using List.mem_takeWhile_imp hc
  rw [hfeed]
  rfl

theorem visible_dropWhile_lineFeeds (cs : List Char) :
    visible (cs.dropWhile (· == '\n')) = visible cs := by
  have hsplit : visible (cs.takeWhile (· == '\n')) ++ visible (cs.dropWhile (· == '\n')) = visible cs := by
    rw [← visible_append, List.takeWhile_append_dropWhile]
  rwa [visible_takeWhile_lineFeeds, List.nil_append] at hsplit

theorem visible_paragraphsFrom (current cs : List Char) :
    visible (paragraphsFrom current cs).flatten = visible current.reverse ++ visible cs := by
  fun_induction paragraphsFrom current cs with
  | case1 => simp
  | case2 current c => simp
  | case3 current c d rest hfeeds ih =>
    obtain ⟨rfl, rfl⟩ := hfeeds
    have hblank : visible ['\n', '\n'] = [] := rfl
    rw [List.flatten_cons, visible_append, ih, visible_dropWhile_lineFeeds]
    show _ = _ ++ visible (['\n', '\n'] ++ rest)
    rw [visible_append, hblank]
    rfl
  | case4 current c d rest _ ih =>
    rw [ih, List.reverse_cons, visible_append, List.append_assoc, ← visible_append]
    rfl

theorem visible_paragraphs (cs : List Char) : visible (paragraphs cs).flatten = visible cs := by
  rw [paragraphs, visible_paragraphsFrom]
  rfl

/-- A separator is blank and stands at the front of the text. -/
theorem separatorAt_append (previous : Option Char) (cs : List Char) :
    visible (separatorAt previous cs) = [] ∧ separatorAt previous cs <+: cs := by
  unfold separatorAt
  split
  · refine ⟨visible_eq_nil_iff.mpr fun c hc => List.mem_takeWhile_imp hc, List.takeWhile_prefix _⟩
  · exact ⟨visible_takeWhile_lineFeeds cs, List.takeWhile_prefix _⟩

theorem visible_sentencesFrom (previous : Option Char) (current cs : List Char) :
    visible (sentencesFrom previous current cs).flatten = visible current.reverse ++ visible cs := by
  fun_induction sentencesFrom previous current cs with
  | case1 => simp
  | case2 previous current c rest _ ih =>
    rw [ih, List.reverse_cons, visible_append, List.append_assoc, ← visible_append]
    rfl
  | case3 previous current c rest s separator hseparator ih =>
    obtain ⟨hblank, tail, htail⟩ := separatorAt_append previous (c :: rest)
    rw [hseparator] at hblank htail
    have hdrop : rest.drop separator.length = tail := by
      have hrest : separator ++ tail = rest := (List.cons.inj htail).2
      rw [← hrest, List.drop_left]
    rw [List.flatten_cons, visible_append, ih, hdrop, ← htail, visible_append, hblank]
    rfl

theorem visible_sentences (cs : List Char) : visible (sentences cs).flatten = visible cs := by
  rw [sentences, visible_sentencesFrom]
  rfl

theorem flatten_slices (length : Nat) (positive : 0 < length) (cs : List Char) :
    (slices length positive cs).flatten = cs := by
  fun_induction slices length positive cs with
  | case1 => rfl
  | case2 c rest ih => rw [List.flatten_cons, ih, List.take_append_drop]

theorem length_le_of_mem_slices {length : Nat} {positive : 0 < length} {cs piece : List Char}
    (h : piece ∈ slices length positive cs) : piece.length ≤ length := by
  fun_induction slices length positive cs with
  | case1 => exact absurd h List.not_mem_nil
  | case2 c rest ih =>
    rcases List.mem_cons.mp h with rfl | hrest
    · exact List.length_take_le _ _
    · exact ih hrest

/-! ## Packing -/

namespace Packing

/-- What can be seen of a packing. -/
def shown (p : Packing) : List Char :=
  visible p.finished.flatten ++ visible p.open_

/-- A passage that may be handed out: it is not empty, trimmed and within the limit. -/
structure Neat (limit : Int) (passage : List Char) : Prop where
  nonempty : passage ≠ []
  trimmed : trimChars passage = passage
  fits : (passage.length : Int) ≤ limit

/-- Finished passages may be handed out, and the open one is within the limit. -/
structure Sound (limit : Int) (p : Packing) : Prop where
  finished : ∀ passage ∈ p.finished, Neat limit passage
  open_ : (p.open_.length : Int) ≤ limit

/-- **Packing a piece**: it is shown after what was there, and the passages stay sound. -/
structure Adds (limit : Int) (p : Packing) (piece : List Char) (q : Packing) : Prop where
  shown : q.shown = p.shown ++ visible piece
  sound : p.Sound limit → q.Sound limit

theorem Adds.trans {limit : Int} {p q r : Packing} {piece more : List Char}
    (h : Adds limit p piece q) (hmore : Adds limit q more r) : Adds limit p (piece ++ more) r :=
  ⟨by rw [hmore.shown, h.shown, visible_append, List.append_assoc], fun hp => hmore.sound (h.sound hp)⟩

/-- Only what can be seen of a piece counts. -/
theorem Adds.congr {limit : Int} {p q : Packing} {piece other : List Char} (h : Adds limit p piece q)
    (hsame : visible piece = visible other) : Adds limit p other q :=
  ⟨hsame ▸ h.shown, h.sound⟩

theorem visible_joined {separator : List Char} (hblank : visible separator = [])
    (before after : List Char) :
    visible (joined separator before after) = visible before ++ visible after := by
  unfold joined
  split
  · rename_i hempty
    rw [List.isEmpty_iff.mp hempty]
    rfl
  · rw [visible_append, visible_append, hblank, List.append_nil]

theorem neat_trimChars {limit : Int} {cs : List Char} (hne : trimChars cs ≠ [])
    (hfits : (cs.length : Int) ≤ limit) : Neat limit (trimChars cs) := by
  have hlength := length_trimChars_le cs
  exact ⟨hne, trimChars_trimChars cs, by omega⟩

theorem adds_finish {limit : Int} (hlimit : 0 ≤ limit) (p : Packing) : Adds limit p [] p.finish := by
  by_cases hblank : (trimChars p.open_).isEmpty = true
  · have hopen : visible p.open_ = [] := by
      rw [← visible_trimChars, List.isEmpty_iff.mp hblank]
      rfl
    have hfinish : p.finish = ⟨p.finished, []⟩ := by simp [finish, hblank]
    rw [hfinish]
    refine ⟨?_, fun hp => ⟨hp.finished, hlimit⟩⟩
    simp [Packing.shown, hopen]
  · have hfinish : p.finish = ⟨p.finished ++ [trimChars p.open_], []⟩ := by simp [finish, hblank]
    rw [hfinish]
    refine ⟨?_, fun hp => ⟨?_, hlimit⟩⟩
    · simp [Packing.shown]
    · intro passage hpassage
      rcases List.mem_append.mp hpassage with hold | hnew
      · exact hp.finished passage hold
      · rw [List.mem_singleton.mp hnew]
        exact neat_trimChars (fun hnil => hblank (List.isEmpty_iff.mpr hnil)) hp.open_

theorem adds_of_fit? {limit : Int} {p q : Packing} {piece : List Char} (h : fit? limit p piece = some q) :
    Adds limit p piece q := by
  unfold fit? at h
  dsimp only at h
  split at h
  · rename_i hfits
    cases h
    refine ⟨?_, fun hp => ⟨hp.finished, hfits⟩⟩
    simp only [Packing.shown]
    rw [visible_joined (by rfl), List.append_assoc]
  · cases h

theorem adds_addSlice {limit : Int} (p : Packing) {piece : List Char}
    (hpiece : (piece.length : Int) ≤ limit) : Adds limit p piece (addSlice limit p piece) := by
  unfold addSlice
  rcases hfit : fit? limit p piece with _ | q
  · have hfinish : Adds limit p [] p.finish := adds_finish (by omega) p
    refine ⟨?_, fun hp => ⟨(hfinish.sound hp).finished, hpiece⟩⟩
    have hshown := hfinish.shown
    simp only [Packing.shown, finish, visible_nil, List.append_nil] at hshown
    simp only [Packing.shown, Option.getD_none, finish]
    rw [hshown]
  · exact adds_of_fit? hfit

theorem adds_foldl_addSlice {limit : Int} {pieces : List (List Char)}
    (hpieces : ∀ piece ∈ pieces, (piece.length : Int) ≤ limit) (p : Packing) :
    Adds limit p pieces.flatten (pieces.foldl (addSlice limit) p) := by
  induction pieces generalizing p with
  | nil => exact ⟨by simp, id⟩
  | cons piece rest ih =>
    have hfirst := adds_addSlice p (hpieces piece List.mem_cons_self)
    exact hfirst.trans (ih (fun piece h => hpieces piece (List.mem_cons_of_mem _ h)) _)

theorem adds_addSentences? {limit : Int} (hlimit : 1 ≤ limit) (p : Packing) (piece : List Char) :
    ∃ q, addSentences? limit p piece = some q ∧ Adds limit p piece q := by
  unfold addSentences?
  split
  · rename_i hblank
    have hnone : visible piece = [] := visible_eq_nil_iff.mpr (List.all_eq_true.mp hblank)
    exact ⟨p, rfl, ⟨by rw [hnone, List.append_nil], id⟩⟩
  have hfinish : Adds limit p [] p.finish := adds_finish (by omega) p
  rcases hfit : fit? limit p piece with _ | q
  · rcases hnew : fit? limit p.finish piece with _ | q
    · -- The piece does not even fit on its own, so it is cut.
      have hpositive : 0 < limit.toNat := by omega
      refine ⟨(slices limit.toNat hpositive piece).foldl (addSlice limit) p.finish, ?_, ?_⟩
      · simp [cuts?, hpositive]
      · have hslices : ∀ slice ∈ slices limit.toNat hpositive piece, (slice.length : Int) ≤ limit := by
          intro slice hslice
          have := length_le_of_mem_slices hslice
          omega
        have hcut := hfinish.trans (adds_foldl_addSlice hslices p.finish)
        rwa [flatten_slices] at hcut
    · exact ⟨q, rfl, hfinish.trans (adds_of_fit? hnew)⟩
  · exact ⟨q, rfl, adds_of_fit? hfit⟩

theorem adds_addGathering? {limit : Int} (hlimit : 1 ≤ limit) (sentences : List (List Char))
    (p : Packing) (gathered : List Char) :
    ∃ q, addGathering? limit p gathered sentences = some q ∧
      Adds limit p (gathered ++ sentences.flatten) q := by
  induction sentences generalizing p gathered with
  | nil =>
    obtain ⟨q, hq, hadds⟩ := adds_addSentences? hlimit p gathered
    exact ⟨q, hq, by simpa using hadds⟩
  | cons sentence rest ih =>
    unfold addGathering?
    dsimp only
    split
    · obtain ⟨q, hq, hadds⟩ := adds_addSentences? hlimit p gathered
      obtain ⟨r, hr, hmore⟩ := ih q sentence
      refine ⟨r, ?_, hadds.trans hmore⟩
      rw [hq]
      exact hr
    · obtain ⟨q, hq, hadds⟩ := ih p (joined [' '] gathered sentence)
      refine ⟨q, hq, hadds.congr ?_⟩
      rw [visible_append, visible_joined (by rfl), List.flatten_cons, visible_append, visible_append,
        List.append_assoc]

theorem adds_addParagraph? {limit : Int} (hlimit : 1 ≤ limit) (p : Packing) (paragraph : List Char) :
    ∃ q, addParagraph? limit p paragraph = some q ∧ Adds limit p paragraph q := by
  unfold addParagraph?
  rcases hfit : fit? limit p paragraph with _ | q
  · obtain ⟨q, hq, hadds⟩ := adds_addGathering? hlimit (sentences paragraph) p []
    exact ⟨q, hq, hadds.congr (visible_sentences paragraph)⟩
  · exact ⟨q, rfl, adds_of_fit? hfit⟩

theorem adds_foldlM_addParagraph? {limit : Int} (hlimit : 1 ≤ limit) (paragraphs : List (List Char))
    (p : Packing) :
    ∃ q, paragraphs.foldlM (addParagraph? limit) p = some q ∧ Adds limit p paragraphs.flatten q := by
  induction paragraphs generalizing p with
  | nil => exact ⟨p, rfl, ⟨by simp, id⟩⟩
  | cons paragraph rest ih =>
    obtain ⟨q, hq, hadds⟩ := adds_addParagraph? hlimit p paragraph
    obtain ⟨r, hr, hmore⟩ := ih q
    refine ⟨r, ?_, hadds.trans hmore⟩
    rw [List.foldlM_cons, hq]
    exact hr

end Packing

/-! ## Whole texts -/

theorem toList_join_map_ofList (passages : List (List Char)) :
    (String.join (passages.map String.ofList)).toList = passages.flatten := by
  rw [String.toList_join, List.flatMap_map]
  simp [List.flatMap]

/-- **Passages lose nothing**: for every limit that has room there are passages, none is empty or has
outer blanks or is longer than the limit, and one after another they show what the text shows. -/
theorem passages_keep_text (text : String) (limit : Int) (hlimit : 1 ≤ limit) :
    ∃ passages, passages? text limit = some passages ∧
      (∀ s ∈ passages, s ≠ "" ∧ trim s = s ∧ (s.length : Int) ≤ limit) ∧
      visible (String.join passages).toList = visible text.toList := by
  obtain ⟨packed, hpacked, hadds⟩ :=
    Packing.adds_foldlM_addParagraph? hlimit (paragraphs text.toList) ⟨[], []⟩
  have hfinish := hadds.trans (Packing.adds_finish (by omega) packed)
  refine ⟨packed.finish.finished.map String.ofList, ?_, ?_, ?_⟩
  · rw [passages?, hpacked]
    rfl
  · have hempty : Packing.Sound limit ⟨[], []⟩ := ⟨nofun, by simpa using Int.le_trans (by decide) hlimit⟩
    intro s hs
    obtain ⟨passage, hpassage, rfl⟩ := List.mem_map.mp hs
    obtain ⟨hne, htrimmed, hfits⟩ := (hfinish.sound hempty).finished passage hpassage
    refine ⟨?_, ?_, ?_⟩
    · intro hnil
      exact hne (by simpa using congrArg String.toList hnil)
    · rw [trim, String.toList_ofList, htrimmed]
    · simpa using hfits
  · have hshown := hfinish.shown
    rw [List.append_nil, visible_paragraphs] at hshown
    rw [toList_join_map_ofList]
    simpa [Packing.shown, Packing.finish] using hshown

/-- A sentence that is longer than a passage, between two that are not. -/
theorem passages_keep_text_longSentence :
    (1 : Int) ≤ 4 ∧ ∃ passages, passages? "Oh. abcdef.\n\n ok" 4 = some passages ∧
      (∀ s ∈ passages, s ≠ "" ∧ trim s = s ∧ (s.length : Int) ≤ 4) ∧
      visible (String.join passages).toList = visible "Oh. abcdef.\n\n ok".toList :=
  ⟨by decide, passages_keep_text "Oh. abcdef.\n\n ok" 4 (by decide)⟩

example : passages? "Oh. abcdef.\n\n ok" 4 = some ["Oh.", "abcd", "ef.", "ok"] := by cbv

end Helpdesk.Knowledge
