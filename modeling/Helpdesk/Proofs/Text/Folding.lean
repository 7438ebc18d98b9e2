import Helpdesk.Proofs.Text.Blank
import Mathlib.Data.List.Chain

/-!
# Helpdesk.Proofs.Text.Folding — what folding white space leaves.

Folding makes one space of each run of blanks. In folded text every blank is a space with no blank
beside it, and text of this kind is folded as it stands. What can be seen stays as it is.
-/
namespace Helpdesk.Text

variable {cs : List Char}

/-- Whether a text begins with a blank. -/
def beginsBlank (cs : List Char) : Bool :=
  cs.head?.any isBlank

theorem foldBlanksChars_cons (c : Char) (rest : List Char) :
    foldBlanksChars (c :: rest) =
      if isBlank c then
        if beginsBlank rest then foldBlanksChars rest else ' ' :: foldBlanksChars rest
      else c :: foldBlanksChars rest := by
  cases rest with
  | nil => rfl
  | cons d rest => rfl

theorem beginsBlank_foldBlanksChars (cs : List Char) :
    beginsBlank (foldBlanksChars cs) = beginsBlank cs := by
  induction cs with
  | nil => rfl
  | cons c rest ih =>
    rw [foldBlanksChars_cons]
    by_cases hc : isBlank c = true
    · rw [if_pos hc]
      split
      · rename_i hnext
        rw [ih, hnext, beginsBlank, List.head?_cons, Option.any_some, hc]
      · rw [beginsBlank, beginsBlank, List.head?_cons, List.head?_cons, Option.any_some,
          Option.any_some, hc]
        rfl
    · rw [if_neg hc]
      rfl

/-- Every blank is a space, and no two blanks stand side by side. -/
structure Folded (cs : List Char) : Prop where
  spaces : ∀ c ∈ cs, isBlank c = true → c = ' '
  apart : cs.IsChain fun c d => isBlank c = true → isBlank d = false

theorem Folded.of_isInfix {part : List Char} (h : Folded cs) (hpart : part <:+: cs) : Folded part :=
  ⟨fun c hc => h.spaces c (hpart.subset hc), h.apart.infix hpart⟩

theorem folded_foldBlanksChars (cs : List Char) : Folded (foldBlanksChars cs) := by
  induction cs with
  | nil => exact ⟨nofun, List.isChain_nil⟩
  | cons c rest ih =>
    rw [foldBlanksChars_cons]
    split
    · split
      · exact ih
      · rename_i hnext
        refine ⟨fun d hd hblank => ?_, ih.apart.cons fun d hd _ => ?_⟩
        · rcases List.mem_cons.mp hd with rfl | hd
          · rfl
          · exact ih.spaces d hd hblank
        · rw [← beginsBlank_foldBlanksChars, beginsBlank, show (foldBlanksChars rest).head? = some d
            from hd] at hnext
          simpa using hnext
    · rename_i hc
      refine ⟨fun d hd hblank => ?_, ih.apart.cons fun d _ hblank => absurd hblank hc⟩
      rcases List.mem_cons.mp hd with rfl | hd
      · exact absurd hblank hc
      · exact ih.spaces d hd hblank

theorem Folded.foldBlanksChars_eq (h : Folded cs) : foldBlanksChars cs = cs := by
  induction cs with
  | nil => rfl
  | cons c rest ih =>
    have hrest := ih (h.of_isInfix (List.suffix_cons c rest).isInfix)
    rw [foldBlanksChars_cons, hrest]
    split
    · rename_i hc
      have hnext : ¬ beginsBlank rest = true := by
        intro hnext
        obtain ⟨d, hd, hblank⟩ := (Option.any_eq_true ..).mp hnext
        rw [(List.isChain_cons.mp h.apart).1 d hd hc] at hblank
        cases hblank
      rw [if_neg hnext, h.spaces c List.mem_cons_self hc]
    · rfl

/-- Folding takes nothing out that can be seen. -/
theorem visible_foldBlanksChars (cs : List Char) : visible (foldBlanksChars cs) = visible cs := by
  induction cs with
  | nil => rfl
  | cons c rest ih =>
    rw [foldBlanksChars_cons]
    split
    · rename_i hc
      rw [visible_cons_of_isBlank hc]
      split
      · exact ih
      · rw [visible_cons_of_isBlank rfl, ih]
    · exact visible_cons_congr c ih

theorem mem_foldBlanksChars {c : Char} (h : c ∈ foldBlanksChars cs) : c ∈ cs ∨ c = ' ' := by
  by_cases hblank : isBlank c = true
  · exact Or.inr ((folded_foldBlanksChars cs).spaces c h hblank)
  · have hvisible : c ∈ visible (foldBlanksChars cs) := List.mem_filter.mpr ⟨h, by simpa using hblank⟩
    rw [visible_foldBlanksChars] at hvisible
    exact Or.inl (List.mem_of_mem_filter hvisible)

end Helpdesk.Text
