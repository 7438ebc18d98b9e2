import Helpdesk.Text.Slice
import Mathlib.Data.List.Induction
import Mathlib.Data.List.Nodup

/-!
# Helpdesk.Proofs.Text.Slice — lists without repetitions, and words at the front of a text.

A limit that is not negative takes so many items from the front. Leaving out later repetitions keeps
what is in a list and keeps nothing twice. A word is stripped off a text exactly when the text begins
with it.
-/
namespace Helpdesk.Text

theorem upTo_natCast {α : Type} (items : List α) (n : Nat) : upTo items n = items.take n := by
  have hnonneg : ¬ (n : Int) < 0 := by omega
  rw [upTo, place, if_neg hnonneg, Int.toNat_natCast, ← List.take_take, List.take_length]

theorem lastItems_suffix {α : Type} (n : Nat) (items : List α) : lastItems n items <:+ items :=
  List.drop_suffix _ _

theorem length_lastItems_le {α : Type} (n : Nat) (items : List α) :
    (lastItems n items).length ≤ n := by
  rw [lastItems, List.length_drop]
  omega

theorem mem_distinct {α : Type} [BEq α] [LawfulBEq α] {a : α} {items : List α} :
    a ∈ distinct items ↔ a ∈ items := by
  -- The fold starts from what was seen, so the induction is over any such list.
  have hseen : ∀ seen : List α, a ∈ items.foldl (fun seen x =>
      if seen.contains x then seen else seen ++ [x]) seen ↔ a ∈ seen ∨ a ∈ items := by
    induction items with
    | nil => simp
    | cons b rest ih =>
      intro seen
      rw [List.foldl_cons, ih]
      by_cases hb : b ∈ seen
      · simp only [List.contains_eq_mem, hb, decide_true, if_true, List.mem_cons]
        constructor
        · exact Or.imp id Or.inr
        · rintro (hold | rfl | hrest)
          · exact Or.inl hold
          · exact Or.inl hb
          · exact Or.inr hrest
      · simp [hb, or_assoc]
  unfold distinct
  rw [hseen]
  simp

theorem nodup_distinct {α : Type} [BEq α] [LawfulBEq α] (items : List α) :
    (distinct items).Nodup := by
  have hseen : ∀ seen : List α, seen.Nodup → (items.foldl (fun seen x =>
      if seen.contains x then seen else seen ++ [x]) seen).Nodup := by
    induction items with
    | nil => exact fun seen h => h
    | cons b rest ih =>
      intro seen h
      rw [List.foldl_cons]
      by_cases hb : b ∈ seen
      · simpa [hb] using ih seen h
      · have hlonger : (seen ++ [b]).Nodup := by
          rw [← List.concat_eq_append]
          exact h.concat hb
        simpa [hb] using ih (seen ++ [b]) hlonger
  exact hseen [] List.nodup_nil

/-- One more entry goes to the end unless it is a repetition. -/
theorem distinct_concat {α : Type} [BEq α] [LawfulBEq α] [DecidableEq α] (items : List α) (a : α) :
    distinct (items ++ [a]) = if a ∈ items then distinct items else distinct items ++ [a] := by
  have hstep : distinct (items ++ [a]) =
      if (distinct items).contains a then distinct items else distinct items ++ [a] := by
    rw [distinct, List.foldl_append]
    rfl
  simp only [hstep, List.contains_iff_mem, mem_distinct]

theorem distinct_sublist {α : Type} [BEq α] [LawfulBEq α] [DecidableEq α] (items : List α) :
    (distinct items).Sublist items := by
  induction items using List.reverseRecOn with
  | nil => exact List.Sublist.refl _
  | append_singleton items a ih =>
    rw [distinct_concat]
    split
    · exact ih.trans (List.sublist_append_left _ _)
    · exact ih.append (List.Sublist.refl _)

theorem distinct_eq_nil_iff {α : Type} [BEq α] [LawfulBEq α] {items : List α} :
    distinct items = [] ↔ items = [] := by
  simp only [List.eq_nil_iff_forall_not_mem, mem_distinct]

theorem stripWord_eq_some_iff {word cs rest : List Char} :
    stripWord word cs = some rest ↔ cs = word ++ rest := by
  induction word generalizing cs with
  | nil => exact Option.some_inj
  | cons w word ih =>
    rcases cs with _ | ⟨c, cs⟩
    · simp [stripWord]
    · by_cases hc : w = c
      · rw [stripWord, if_pos hc, ih, hc]
        simp
      · simp [stripWord, hc, Ne.symm hc]

/-- A word takes nothing of a character behind the text that does not stand in it. -/
theorem stripWord_concat {word : List Char} {c : Char} (h : c ∉ word) (cs : List Char) :
    stripWord word (cs ++ [c]) = (stripWord word cs).map (· ++ [c]) := by
  induction word generalizing cs with
  | nil => rfl
  | cons w word ih =>
    obtain ⟨hw, hword⟩ := not_or.mp (mt List.mem_cons.mpr h)
    rcases cs with _ | ⟨d, cs⟩
    · simp [stripWord, Ne.symm hw]
    · by_cases hd : w = d
      · simp [stripWord, hd, ih hword]
      · simp [stripWord, hd]

end Helpdesk.Text
