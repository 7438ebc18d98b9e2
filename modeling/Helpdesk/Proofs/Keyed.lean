import Helpdesk.Keyed
import Mathlib.Data.List.Nodup

/-!
# Helpdesk.Proofs.Keyed — writing into a table and reading it again.

A name that is new goes to the end and one that is there keeps its place, so a table is described by
two lists, its names and its entries. What can be read off the entries and is the same before and
after stays the same list.
-/
namespace Helpdesk.Keyed

variable {α β : Type}

theorem mem_of_get?_eq_some {name : String} {a : α} {table : Keyed α}
    (h : get? name table = some a) : (name, a) ∈ table := by
  induction table with
  | nil => cases h
  | cons entry rest ih =>
    obtain ⟨k, b⟩ := entry
    by_cases hk : k = name
    · simp only [get?, if_pos hk, Option.some.injEq] at h
      rw [hk, h]
      exact List.mem_cons_self
    · simp only [get?, if_neg hk] at h
      exact List.mem_cons_of_mem _ (ih h)

theorem mem_entries_of_get?_eq_some {name : String} {a : α} {table : Keyed α}
    (h : get? name table = some a) : a ∈ entries table :=
  List.mem_map_of_mem (mem_of_get?_eq_some h)

theorem get?_eq_none_iff {name : String} {table : Keyed α} :
    get? name table = none ↔ name ∉ names table := by
  induction table with
  | nil => simp [get?, names]
  | cons entry rest ih =>
    obtain ⟨k, b⟩ := entry
    by_cases hk : k = name
    · simp [get?, names, hk]
    · have hname : name ≠ k := fun h => hk h.symm
      simpa [get?, names, hk, hname] using ih

theorem has_iff_mem_names {name : String} {table : Keyed α} :
    has name table = true ↔ name ∈ names table := by
  rw [has, Option.isSome_iff_ne_none, ne_eq, get?_eq_none_iff, not_not]

/-- In a table without repeated names every entry is found under its name. -/
theorem get?_eq_some_of_mem {name : String} {a : α} {table : Keyed α} (hnames : (names table).Nodup)
    (h : (name, a) ∈ table) : get? name table = some a := by
  induction table with
  | nil => cases h
  | cons entry rest ih =>
    obtain ⟨k, b⟩ := entry
    obtain ⟨hk, hrest⟩ := List.nodup_cons.mp hnames
    rcases List.mem_cons.mp h with heq | hmem
    · cases heq
      exact if_pos rfl
    · have hname : name ∈ names rest := List.mem_map_of_mem hmem
      -- A later entry of this name would be the second one.
      have hne : k ≠ name := fun heq => hk (heq ▸ hname)
      rw [get?, if_neg hne]
      exact ih hrest hmem

/-! ## A new name -/

theorem put_of_get?_eq_none {name : String} {a : α} {table : Keyed α}
    (h : get? name table = none) : put name a table = table ++ [(name, a)] := by
  induction table with
  | nil => rfl
  | cons entry rest ih =>
    obtain ⟨k, b⟩ := entry
    by_cases hk : k = name
    · simp [get?, hk] at h
    · simp only [get?, if_neg hk] at h
      simp only [put, if_neg hk, ih h, List.cons_append]

theorem names_put_of_get?_eq_none {name : String} {a : α} {table : Keyed α}
    (h : get? name table = none) : names (put name a table) = names table ++ [name] := by
  rw [put_of_get?_eq_none h, names, List.map_append]
  rfl

theorem entries_put_of_get?_eq_none {name : String} {a : α} {table : Keyed α}
    (h : get? name table = none) : entries (put name a table) = entries table ++ [a] := by
  rw [put_of_get?_eq_none h, entries, List.map_append]
  rfl

/-! ## A name that is there -/

theorem names_put_of_get?_eq_some {name : String} {a b : α} {table : Keyed α}
    (h : get? name table = some b) : names (put name a table) = names table := by
  induction table with
  | nil => cases h
  | cons entry rest ih =>
    obtain ⟨k, c⟩ := entry
    by_cases hk : k = name
    · simp [put, names, hk]
    · simp only [get?, if_neg hk] at h
      have hrest := ih h
      simp only [names] at hrest
      simp [put, names, hk, hrest]

theorem put_of_get?_eq_some {name : String} {a : α} {table : Keyed α}
    (h : get? name table = some a) : put name a table = table := by
  induction table with
  | nil => cases h
  | cons entry rest ih =>
    obtain ⟨k, b⟩ := entry
    by_cases hk : k = name
    · simp only [get?, if_pos hk, Option.some.injEq] at h
      rw [put, if_pos hk, h]
    · simp only [get?, if_neg hk] at h
      rw [put, if_neg hk, ih h]

/-- What the new entry shares with the one that it replaces reads the same in the whole table. -/
theorem map_entries_put {name : String} {a b : α} {table : Keyed α} {view : α → β}
    (h : get? name table = some b) (hview : view a = view b) :
    (entries (put name a table)).map view = (entries table).map view := by
  induction table with
  | nil => cases h
  | cons entry rest ih =>
    obtain ⟨k, c⟩ := entry
    by_cases hk : k = name
    · simp only [get?, if_pos hk, Option.some.injEq] at h
      simp [put, entries, hk, hview, h]
    · simp only [get?, if_neg hk] at h
      have hrest := ih h
      simp only [entries] at hrest
      simp [put, entries, hk, hrest]

theorem mem_entries_put_self (name : String) (a : α) (table : Keyed α) :
    a ∈ entries (put name a table) := by
  induction table with
  | nil => simp [put, entries]
  | cons entry rest ih =>
    obtain ⟨k, c⟩ := entry
    by_cases hk : k = name
    · simp [put, entries, hk]
    · simp only [put, if_neg hk, entries, List.map_cons]
      exact List.mem_cons_of_mem _ ih

theorem eq_or_mem_of_mem_entries_put {name : String} {a b : α} {table : Keyed α}
    (h : b ∈ entries (put name a table)) : b = a ∨ b ∈ entries table := by
  induction table with
  | nil => exact Or.inl (by simpa [put, entries] using h)
  | cons entry rest ih =>
    obtain ⟨k, c⟩ := entry
    by_cases hk : k = name
    · simp only [put, if_pos hk, entries, List.map_cons, List.mem_cons] at h
      rcases h with rfl | hrest
      · exact Or.inl rfl
      · exact Or.inr (List.mem_cons_of_mem _ hrest)
    · simp only [put, if_neg hk, entries, List.map_cons, List.mem_cons] at h
      rcases h with rfl | hrest
      · exact Or.inr List.mem_cons_self
      · exact (ih hrest).imp id fun hmem => List.mem_cons_of_mem _ hmem

/-- Only the entry of the name can be lost. -/
theorem mem_entries_put_or_replaced {name : String} {a b : α} {table : Keyed α}
    (h : b ∈ entries table) : b ∈ entries (put name a table) ∨ get? name table = some b := by
  induction table with
  | nil => cases h
  | cons entry rest ih =>
    obtain ⟨k, c⟩ := entry
    by_cases hk : k = name
    · simp only [put, get?, if_pos hk, entries, List.map_cons, List.mem_cons] at h ⊢
      rcases h with rfl | hrest
      · exact Or.inr rfl
      · exact Or.inl (Or.inr hrest)
    · simp only [put, get?, if_neg hk, entries, List.map_cons, List.mem_cons] at h ⊢
      rcases h with rfl | hrest
      · exact Or.inl (Or.inl rfl)
      · exact (ih hrest).imp Or.inr id

/-! ## Any name -/

theorem get?_put (name : String) (a : α) (table : Keyed α) (other : String) :
    get? other (put name a table) = if name = other then some a else get? other table := by
  induction table with
  | nil => rfl
  | cons entry rest ih =>
    obtain ⟨k, b⟩ := entry
    by_cases hk : k = name
    · rw [put, if_pos hk, get?, get?, hk]
      split <;> rfl
    · rw [put, if_neg hk, get?, get?, ih]
      by_cases hother : k = other
      · have hne : name ≠ other := fun heq => hk (hother.trans heq.symm)
        rw [if_pos hother, if_pos hother, if_neg hne]
      · rw [if_neg hother, if_neg hother]

theorem nodup_names_put {name : String} {a : α} {table : Keyed α} (h : (names table).Nodup) :
    (names (put name a table)).Nodup := by
  rcases hget : get? name table with _ | b
  · rw [names_put_of_get?_eq_none hget, ← List.concat_eq_append]
    exact h.concat (get?_eq_none_iff.mp hget)
  · rw [names_put_of_get?_eq_some hget]
    exact h

end Helpdesk.Keyed
