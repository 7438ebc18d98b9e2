import Helpdesk.Text.Blank
import Mathlib.Data.List.DropRight

/-!
# Helpdesk.Proofs.Text.Blank — what trimming leaves.

Trimming takes blanks off both ends and nothing else: what can be seen of a text stays the same, and
once trimmed a text stays as it is.
-/
namespace Helpdesk.Text

variable {p : Char → Bool} {cs : List Char}

/-! ## What can be seen -/

/-- The characters of a text that are not blank. -/
def visible (cs : List Char) : List Char :=
  cs.filter fun c => !isBlank c

@[simp] theorem visible_nil : visible [] = [] := rfl

@[simp] theorem visible_append (xs ys : List Char) : visible (xs ++ ys) = visible xs ++ visible ys :=
  List.filter_append ..

@[simp] theorem visible_reverse (cs : List Char) : visible cs.reverse = (visible cs).reverse :=
  List.filter_reverse ..

theorem visible_cons_of_isBlank {c : Char} (h : isBlank c = true) (cs : List Char) :
    visible (c :: cs) = visible cs :=
  List.filter_cons_of_neg (by simp [h])

theorem visible_cons_congr (c : Char) {cs ds : List Char} (h : visible cs = visible ds) :
    visible (c :: cs) = visible (c :: ds) := by
  rw [← List.singleton_append, visible_append, h, ← visible_append, List.singleton_append]

theorem visible_eq_nil_iff : visible cs = [] ↔ ∀ c ∈ cs, isBlank c = true := by
  simp [visible]

theorem visible_dropLeading (cs : List Char) : visible (dropLeading isBlank cs) = visible cs := by
  have hsplit : visible (cs.takeWhile isBlank) ++ visible (cs.dropWhile isBlank) = visible cs := by
    rw [← visible_append, List.takeWhile_append_dropWhile]
  have hblank : visible (cs.takeWhile isBlank) = [] :=
    visible_eq_nil_iff.mpr fun c hc => List.mem_takeWhile_imp hc
  rwa [hblank, List.nil_append] at hsplit

theorem visible_dropTrailing (cs : List Char) : visible (dropTrailing isBlank cs) = visible cs := by
  have hleading := visible_dropLeading cs.reverse
  rw [dropTrailing, visible_reverse]
  rw [dropLeading] at hleading
  rw [hleading, visible_reverse, List.reverse_reverse]

@[simp] theorem visible_trimChars (cs : List Char) : visible (trimChars cs) = visible cs := by
  rw [trimChars, trimBy, visible_dropTrailing, visible_dropLeading]

/-! ## Ends -/

theorem dropLeading_eq_self_iff : dropLeading p cs = cs ↔ ∀ c ∈ cs.head?, p c = false := by
  cases cs with
  | nil => simp [dropLeading]
  | cons c rest =>
    by_cases hc : p c = true
    · have hlt : (rest.dropWhile p).length < (c :: rest).length := by
        have := (rest.dropWhile_sublist p).length_le
        simp only [List.length_cons]
        omega
      have hne : rest.dropWhile p ≠ c :: rest := fun h => absurd (congrArg List.length h) (by omega)
      simp [dropLeading, hc, hne]
    · simp [dropLeading, hc]

theorem dropTrailing_eq_self_iff : dropTrailing p cs = cs ↔ ∀ c ∈ cs.getLast?, p c = false := by
  have hreverse : dropLeading p cs.reverse = cs.reverse ↔ ∀ c ∈ cs.reverse.head?, p c = false :=
    dropLeading_eq_self_iff
  rw [List.head?_reverse] at hreverse
  rw [← hreverse, dropTrailing, dropLeading, List.reverse_eq_iff]

theorem trimBy_eq_self_iff :
    trimBy p cs = cs ↔ (∀ c ∈ cs.head?, p c = false) ∧ ∀ c ∈ cs.getLast?, p c = false := by
  constructor
  · intro h
    have hshort : (trimBy p cs).length ≤ (dropLeading p cs).length := by
      have := ((dropLeading p cs).reverse.dropWhile_sublist p).length_le
      simpa [trimBy, dropTrailing] using this
    have hsuffix : dropLeading p cs <:+ cs := List.dropWhile_suffix p
    have hleading : dropLeading p cs = cs := by
      refine hsuffix.eq_of_length_le ?_
      rw [h] at hshort
      exact hshort
    refine ⟨dropLeading_eq_self_iff.mp hleading, dropTrailing_eq_self_iff.mp ?_⟩
    rwa [trimBy, hleading] at h
  · rintro ⟨hhead, hlast⟩
    rw [trimBy, dropLeading_eq_self_iff.mpr hhead, dropTrailing_eq_self_iff.mpr hlast]

theorem head?_dropLeading (cs : List Char) : ∀ c ∈ (dropLeading p cs).head?, p c = false := by
  intro c hc
  have hnot := List.head?_dropWhile_not p cs
  rw [show (cs.dropWhile p).head? = some c from hc] at hnot
  simpa using hnot

theorem getLast?_dropTrailing (cs : List Char) : ∀ c ∈ (dropTrailing p cs).getLast?, p c = false := by
  rw [dropTrailing, List.getLast?_reverse]
  exact head?_dropLeading cs.reverse

/-- What was taken off the end, and what was left. -/
theorem exists_eq_dropTrailing_append (p : Char → Bool) (cs : List Char) :
    ∃ tail, cs = dropTrailing p cs ++ tail ∧ ∀ c ∈ tail, p c = true := by
  refine ⟨(cs.reverse.takeWhile p).reverse, ?_, fun c hc => ?_⟩
  · rw [dropTrailing, ← List.reverse_append, List.takeWhile_append_dropWhile, List.reverse_reverse]
  · exact List.mem_takeWhile_imp (List.mem_reverse.mp hc)

theorem dropTrailing_isPrefix (p : Char → Bool) (cs : List Char) : dropTrailing p cs <+: cs := by
  obtain ⟨tail, hcs, -⟩ := exists_eq_dropTrailing_append p cs
  exact ⟨tail, hcs.symm⟩

theorem dropTrailing_append {p : Char → Bool} {tail : List Char} (h : ∀ c ∈ tail, p c = true)
    (cs : List Char) : dropTrailing p (cs ++ tail) = dropTrailing p cs := by
  have hall : ∀ c ∈ tail.reverse, p c = true := fun c hc => h c (List.mem_reverse.mp hc)
  rw [dropTrailing, dropTrailing, List.reverse_append, List.dropWhile_append_of_pos hall]

/-- Characters are taken off the front of a first part only, where the second part does not begin with
one of the class. -/
theorem dropLeading_append_of_head {ys : List Char} (h : ∀ c ∈ ys.head?, p c = false)
    (xs : List Char) : dropLeading p (xs ++ ys) = dropLeading p xs ++ ys := by
  rw [dropLeading, List.dropWhile_append, ← dropLeading, ← dropLeading, dropLeading_eq_self_iff.mpr h]
  split
  · rename_i hempty
    rw [List.isEmpty_iff.mp hempty]
    rfl
  · rfl

theorem dropTrailing_append_of_last {xs : List Char} (h : ∀ c ∈ xs.getLast?, p c = false)
    (ys : List Char) : dropTrailing p (xs ++ ys) = xs ++ dropTrailing p ys := by
  have hhead : ∀ c ∈ xs.reverse.head?, p c = false := by
    rw [List.head?_reverse]
    exact h
  have hreverse := dropLeading_append_of_head hhead ys.reverse
  rw [← List.reverse_append, dropLeading, dropLeading] at hreverse
  rw [dropTrailing, hreverse, List.reverse_append, List.reverse_reverse]
  rfl

/-- Taking characters off the end leaves the first one, unless nothing is left. -/
theorem head?_dropTrailing (cs : List Char) : ∀ c ∈ (dropTrailing p cs).head?, cs.head? = some c := by
  intro c hc
  obtain ⟨rest, hrest⟩ := dropTrailing_isPrefix p cs
  rw [← hrest, List.head?_append, show (dropTrailing p cs).head? = some c from hc]
  rfl

theorem head?_trimBy (cs : List Char) : ∀ c ∈ (trimBy p cs).head?, p c = false := by
  intro c hc
  exact head?_dropLeading cs c (head?_dropTrailing _ c hc)

theorem getLast?_trimBy (cs : List Char) : ∀ c ∈ (trimBy p cs).getLast?, p c = false :=
  getLast?_dropTrailing _

/-- **Trimming once is enough**. -/
theorem trimBy_trimBy (p : Char → Bool) (cs : List Char) : trimBy p (trimBy p cs) = trimBy p cs :=
  trimBy_eq_self_iff.mpr ⟨head?_trimBy cs, getLast?_trimBy cs⟩

theorem trimBy_isInfix (p : Char → Bool) (cs : List Char) : trimBy p cs <:+: cs :=
  (dropTrailing_isPrefix p _).isInfix.trans (List.dropWhile_suffix p).isInfix

/-- A trailing character of the class makes no difference. -/
theorem trimBy_concat {c : Char} (hc : p c = true) (cs : List Char) :
    trimBy p (cs ++ [c]) = trimBy p cs := by
  rw [trimBy, trimBy, dropLeading, dropLeading, List.dropWhile_append]
  split
  · rename_i hempty
    rw [List.isEmpty_iff.mp hempty, List.dropWhile_cons_of_pos hc]
    rfl
  · exact dropTrailing_append (by simpa using hc) _

theorem trimBy_append_right {tail : List Char} (h : ∀ c ∈ tail, p c = true) (cs : List Char) :
    trimBy p (cs ++ tail) = trimBy p cs := by
  induction tail generalizing cs with
  | nil => rw [List.append_nil]
  | cons c tail ih =>
    obtain ⟨hc, htail⟩ := List.forall_mem_cons.mp h
    rw [List.append_cons, ih htail, trimBy_concat hc]

theorem trimBy_append_left {lead : List Char} (h : ∀ c ∈ lead, p c = true) (cs : List Char) :
    trimBy p (lead ++ cs) = trimBy p cs := by
  rw [trimBy, dropLeading, List.dropWhile_append_of_pos h]
  rfl

theorem trimChars_trimChars (cs : List Char) : trimChars (trimChars cs) = trimChars cs :=
  trimBy_trimBy isBlank cs

theorem trim_trim (s : String) : trim (trim s) = trim s := by
  rw [trim, trim, String.toList_ofList, trimChars_trimChars]

/-- Where a text does not end in a blank, its last character is the last that can be seen. -/
theorem getLast?_visible (h : ∀ c ∈ cs.getLast?, isBlank c = false) :
    (visible cs).getLast? = cs.getLast? := by
  rcases cs.eq_nil_or_concat with rfl | ⟨front, c, rfl⟩
  · rfl
  · have hc : isBlank c = false := h c (by simp)
    simp [visible, hc]

theorem length_trimChars_le (cs : List Char) : (trimChars cs).length ≤ cs.length := by
  have hleading := (cs.dropWhile_sublist isBlank).length_le
  have htrailing := ((dropLeading isBlank cs).reverse.dropWhile_sublist isBlank).length_le
  simp only [trimChars, trimBy, dropTrailing, List.length_reverse] at *
  exact Nat.le_trans htrailing hleading

end Helpdesk.Text
