import Helpdesk.Proofs.Text.Folding
import Helpdesk.Text.Line
import Helpdesk.Text.Slice

/-!
# Helpdesk.Proofs.Text.Line — texts of one line, and what is read where they are joined.

A text of one line has no character that ends a line, whichever of them a reader looks for. All these
characters are blank, so folded text is of one line, and lines that are joined by line feeds are read
as these very lines again. Only an empty line at the end would get lost, so lines are not empty here.
-/
namespace Helpdesk.Text

/-- Text without a character that ends a line. -/
def OneLine (s : String) : Prop :=
  ∀ c ∈ s.toList, isLineBreak c = false

instance (s : String) : Decidable (OneLine s) :=
  decidable_of_iff (s.toList.all (fun c => !isLineBreak c) = true) (by simp [OneLine])

theorem isBlank_of_isLineBreak {c : Char} (h : isLineBreak c = true) : isBlank c = true := by
  simp only [isLineBreak, isBlank, Bool.or_eq_true, Bool.and_eq_true, decide_eq_true_eq,
    beq_iff_eq] at h ⊢
  omega

theorem isLineBreak_of_isDigit {c : Char} (h : c.isDigit = true) : isLineBreak c = false := by
  have hrange : 48 ≤ c.toNat ∧ c.toNat ≤ 57 := Char.isDigit_iff_toNat.mp h
  simp only [isLineBreak, Bool.or_eq_false_iff, Bool.and_eq_false_iff, decide_eq_false_iff_not,
    beq_eq_false_iff_ne]
  omega

variable {s t : String}

theorem OneLine.append (hs : OneLine s) (ht : OneLine t) : OneLine (s ++ t) := by
  intro c hc
  rw [String.toList_append] at hc
  exact (List.mem_append.mp hc).elim (hs c) (ht c)

theorem OneLine.ofList_of_subset {cs : List Char} (hs : OneLine s) (h : cs ⊆ s.toList) :
    OneLine (String.ofList cs) := by
  intro c hc
  rw [String.toList_ofList] at hc
  exact hs c (h hc)

theorem oneLine_ofList_of_isDigit {cs : List Char} (h : ∀ c ∈ cs, c.isDigit = true) :
    OneLine (String.ofList cs) := by
  intro c hc
  rw [String.toList_ofList] at hc
  exact isLineBreak_of_isDigit (h c hc)

/-- The only blank of folded text is the space, and that ends no line. -/
theorem Folded.oneLine (h : Folded s.toList) : OneLine s := by
  intro c hc
  by_contra hbreak
  rw [Bool.not_eq_false] at hbreak
  obtain rfl := h.spaces c hc (isBlank_of_isLineBreak hbreak)
  exact absurd hbreak (by decide)

/-! ## Lines that are joined -/

theorem linesFrom_append {cs : List Char} (h : ∀ c ∈ cs, isLineBreak c = false)
    (current rest : List Char) :
    linesFrom current (cs ++ rest) = linesFrom (cs.reverse ++ current) rest := by
  induction cs generalizing current with
  | nil => rfl
  | cons c cs ih =>
    have hc : isLineBreak c = false := h c List.mem_cons_self
    have hcs := ih (fun d hd => h d (List.mem_cons_of_mem _ hd)) (c :: current)
    rw [List.cons_append, linesFrom, if_neg (by simp [hc]), hcs, List.reverse_cons,
      List.append_assoc, List.singleton_append]
    -- A carriage return would be a line break.
    rintro rest' rfl
    exact absurd hc (by decide)

theorem linesFrom_line {cs : List Char} (h : ∀ c ∈ cs, isLineBreak c = false) (rest : List Char) :
    linesFrom [] (cs ++ '\n' :: rest) = cs :: linesFrom [] rest := by
  rw [linesFrom_append h, linesFrom, if_pos (by decide), List.append_nil, List.reverse_reverse]
  exact nofun

theorem linesFrom_last {cs : List Char} (h : ∀ c ∈ cs, isLineBreak c = false) (hne : cs ≠ []) :
    linesFrom [] cs = [cs] := by
  have hend := linesFrom_append h [] []
  rw [List.append_nil, List.append_nil] at hend
  rw [hend, linesFrom, if_neg (by simpa using hne), List.reverse_reverse]

theorem toList_join_cons_cons (separator s t : String) (ls : List String) :
    (join separator (s :: t :: ls)).toList =
      s.toList ++ (separator.toList ++ (join separator (t :: ls)).toList) := by
  rw [join, String.toList_append, String.toList_append, List.append_assoc]
  exact nofun

/-- Lines that are joined by line feeds are read as the same lines. -/
theorem lines_join {ls : List String} (h : ∀ s ∈ ls, s ≠ "" ∧ OneLine s) :
    lines (join "\n" ls) = ls := by
  induction ls with
  | nil => rfl
  | cons s ls ih =>
    obtain ⟨hne, hs⟩ := h s List.mem_cons_self
    cases ls with
    | nil =>
      have hchars : s.toList ≠ [] := fun heq => hne (String.toList_inj.mp heq)
      rw [join, lines, linesFrom_last hs hchars, List.map_singleton, String.ofList_toList]
    | cons t ls =>
      have hrest : (linesFrom [] (join "\n" (t :: ls)).toList).map String.ofList = t :: ls :=
        ih fun u hu => h u (List.mem_cons_of_mem _ hu)
      rw [lines, toList_join_cons_cons]
      show (linesFrom [] (s.toList ++ '\n' :: (join "\n" (t :: ls)).toList)).map String.ofList = _
      rw [linesFrom_line hs, List.map_cons, String.ofList_toList, hrest]

end Helpdesk.Text
