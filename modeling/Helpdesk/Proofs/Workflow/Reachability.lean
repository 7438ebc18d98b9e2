import Helpdesk.Workflow.Graph
import Mathlib.Logic.Relation

/-!
# Helpdesk.Proofs.Workflow.Reachability — saturation finds exactly what arrows lead to.

`reachableFrom` goes over all arrows once a round, for as many rounds as there are arrows. A round
may use what an earlier arrow of the same round added, so the rounds are not the steps of a path and
soundness is stated for every prefix of a round. Completeness counts the arrows whose targets are
still unknown: a round that leaves something open lowers that count, so after as many rounds as
there are arrows nothing is open.
-/
namespace Helpdesk.Workflow

/-- A path along arrows, possibly of no arrow at all. -/
def Reaches (arrows : List Arrow) : String → String → Prop :=
  Relation.ReflTransGen fun a b => (a, b) ∈ arrows

/-- Nothing is left to add: with the source of an arrow its target is known. -/
def Saturated (arrows : List Arrow) (known : List String) : Prop :=
  ∀ a ∈ arrows, a.1 ∈ known → a.2 ∈ known

/-! ## One round -/

theorem mem_follow {known : List String} {a : Arrow} {id : String} :
    id ∈ follow known a ↔ id ∈ known ∨ (a.1 ∈ known ∧ id = a.2) := by
  unfold follow
  by_cases hsource : a.1 ∈ known <;> by_cases htarget : a.2 ∈ known
  · have hid : id = a.2 → id ∈ known := fun h => h ▸ htarget
    simpa [hsource, htarget] using hid
  · simp [hsource, htarget]
  · simp [hsource]
  · simp [hsource]

theorem subset_round (arrows : List Arrow) (known : List String) :
    known ⊆ arrows.foldl follow known := by
  induction arrows generalizing known with
  | nil => exact List.Subset.refl known
  | cons a rest ih =>
    intro id hid
    exact ih (follow known a) (mem_follow.mpr (Or.inl hid))

theorem target_mem_round {arrows : List Arrow} {known : List String} {a : Arrow}
    (ha : a ∈ arrows) (hsource : a.1 ∈ known) : a.2 ∈ arrows.foldl follow known := by
  induction arrows generalizing known with
  | nil => exact absurd ha List.not_mem_nil
  | cons first rest ih =>
    rcases List.mem_cons.mp ha with rfl | hrest
    · exact subset_round rest _ (mem_follow.mpr (Or.inr ⟨hsource, rfl⟩))
    · exact ih hrest (mem_follow.mpr (Or.inl hsource))

/-- Whatever part of the arrows a round has gone over, it has added only what paths lead to. -/
theorem round_sound {arrows part : List Arrow} (hpart : part ⊆ arrows) {known sources : List String}
    (hknown : ∀ id ∈ known, ∃ s ∈ sources, Reaches arrows s id) :
    ∀ id ∈ part.foldl follow known, ∃ s ∈ sources, Reaches arrows s id := by
  induction part generalizing known with
  | nil => exact hknown
  | cons a rest ih =>
    obtain ⟨ha, hrest⟩ := List.cons_subset.mp hpart
    refine ih hrest ?_
    intro id hid
    rcases mem_follow.mp hid with hold | ⟨hsource, rfl⟩
    · exact hknown id hold
    · obtain ⟨s, hs, hpath⟩ := hknown a.1 hsource
      exact ⟨s, hs, hpath.tail ha⟩

/-! ## All rounds -/

/-- The number of arrows whose targets are not known. -/
def openArrows (arrows : List Arrow) (known : List String) : Nat :=
  arrows.countP fun a => !known.contains a.2

theorem openArrows_antitone (arrows : List Arrow) {known more : List String} (h : known ⊆ more) :
    openArrows arrows more ≤ openArrows arrows known := by
  refine List.countP_mono_left ?_
  intro a _ ha
  simp only [List.contains_eq_mem, Bool.not_eq_true', decide_eq_false_iff_not] at ha ⊢
  exact fun hmem => ha (h hmem)

/-- Knowing more closes an arrow for good when its target is among what is new. -/
theorem openArrows_lt {arrows : List Arrow} {known more : List String} (h : known ⊆ more)
    {a : Arrow} (ha : a ∈ arrows) (hopen : a.2 ∉ known) (hclosed : a.2 ∈ more) :
    openArrows arrows more < openArrows arrows known := by
  -- The arrow itself is closed, and none is opened on either side of it.
  obtain ⟨before, after, rfl⟩ := List.append_of_mem ha
  have hbefore := openArrows_antitone before h
  have hafter := openArrows_antitone after h
  simp only [openArrows] at hbefore hafter
  simp only [openArrows, List.countP_append, List.countP_cons, List.contains_eq_mem, hopen, hclosed,
    decide_true, decide_false, Bool.not_true, Bool.not_false, if_true, if_false, Bool.false_eq_true]
  simp only [List.contains_eq_mem] at hbefore hafter
  omega

/-- A round that finds an arrow to follow closes it, and it opens none. -/
theorem openArrows_round_lt {arrows : List Arrow} {known : List String}
    (hopen : ¬ Saturated arrows known) :
    openArrows arrows (arrows.foldl follow known) < openArrows arrows known := by
  simp only [Saturated, Classical.not_forall] at hopen
  obtain ⟨a, ha, hsource, htarget⟩ := hopen
  exact openArrows_lt (subset_round arrows known) ha htarget (target_mem_round ha hsource)

theorem round_eq_of_saturated {arrows part : List Arrow} {known : List String}
    (hpart : part ⊆ arrows) (h : Saturated arrows known) : part.foldl follow known = known := by
  induction part with
  | nil => rfl
  | cons a rest ih =>
    obtain ⟨ha, hrest⟩ := List.cons_subset.mp hpart
    have hfollow : follow known a = known := by
      unfold follow
      by_cases hsource : a.1 ∈ known
      · simp [h a ha hsource]
      · simp [hsource]
    rw [List.foldl_cons, hfollow]
    exact ih hrest

theorem spread_eq_of_saturated {arrows : List Arrow} {known : List String}
    (h : Saturated arrows known) (rounds : Nat) : spread arrows rounds known = known := by
  induction rounds with
  | zero => rfl
  | succ rounds ih =>
    rw [spread, round_eq_of_saturated (List.Subset.refl arrows) h]
    exact ih

theorem saturated_spread {arrows : List Arrow} {rounds : Nat} {known : List String}
    (hrounds : openArrows arrows known ≤ rounds) : Saturated arrows (spread arrows rounds known) := by
  induction rounds generalizing known with
  | zero =>
    intro a ha _
    have hzero : openArrows arrows known = 0 := Nat.le_zero.mp hrounds
    have hknown := List.countP_eq_zero.mp hzero a ha
    simpa [spread] using hknown
  | succ rounds ih =>
    -- Either nothing changes any more, or this round uses up one open arrow.
    by_cases hsat : Saturated arrows known
    · rw [spread_eq_of_saturated hsat]
      exact hsat
    · have hlt := openArrows_round_lt hsat
      exact ih (by omega)

theorem subset_spread (arrows : List Arrow) (rounds : Nat) (known : List String) :
    known ⊆ spread arrows rounds known := by
  induction rounds generalizing known with
  | zero => exact List.Subset.refl known
  | succ rounds ih => exact List.Subset.trans (subset_round arrows known) (ih _)

theorem spread_sound {arrows : List Arrow} {sources : List String} (rounds : Nat)
    {known : List String} (hknown : ∀ id ∈ known, ∃ s ∈ sources, Reaches arrows s id) :
    ∀ id ∈ spread arrows rounds known, ∃ s ∈ sources, Reaches arrows s id := by
  induction rounds generalizing known with
  | zero => exact hknown
  | succ rounds ih => exact ih (round_sound (List.Subset.refl arrows) hknown)

theorem Saturated.mem_of_reaches {arrows : List Arrow} {known : List String}
    (h : Saturated arrows known) {a b : String} (hpath : Reaches arrows a b) (ha : a ∈ known) :
    b ∈ known := by
  induction hpath with
  | refl => exact ha
  | tail _ harrow ih => exact h _ harrow ih

/-- **Reachability is exact**: what is found is what some path from a source leads to. -/
theorem mem_reachableFrom_iff {arrows : List Arrow} {sources : List String} {id : String} :
    id ∈ reachableFrom arrows sources ↔ ∃ s ∈ sources, Reaches arrows s id := by
  constructor
  · refine spread_sound arrows.length ?_ id
    intro s hs
    exact ⟨s, hs, .refl⟩
  · rintro ⟨s, hs, hpath⟩
    have hsat : Saturated arrows (reachableFrom arrows sources) :=
      saturated_spread List.countP_le_length
    exact hsat.mem_of_reaches hpath (subset_spread arrows arrows.length sources hs)

end Helpdesk.Workflow
