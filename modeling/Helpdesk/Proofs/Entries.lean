import Helpdesk.Value

/-!
# Helpdesk.Proofs.Entries — free-form records as lists of entries.

Writing under a name that is not there yet adds an entry at the end, so a record whose names are all
different is what comes of writing its entries one after another. What was written last is what is
found.
-/
namespace Helpdesk.Entries

theorem value?_eq_none_iff {name : String} {entries : Entries} :
    value? name entries = none ↔ name ∉ names entries := by
  induction entries with
  | nil => simp [value?, names]
  | cons e entries ih =>
    obtain ⟨k, v⟩ := e
    by_cases hk : k = name
    · simp [value?, names, hk]
    · have hname : ¬ name = k := fun h => hk h.symm
      simpa [value?, names, hk, hname] using ih

theorem has_eq_false_iff {name : String} {entries : Entries} :
    has name entries = false ↔ name ∉ names entries := by
  rw [← value?_eq_none_iff, has, Option.isSome_eq_false_iff, Option.isNone_iff_eq_none]

theorem put_of_notMem {name : String} {v : Value} {entries : Entries} (h : name ∉ names entries) :
    put name v entries = entries ++ [(name, v)] := by
  induction entries with
  | nil => rfl
  | cons e entries ih =>
    obtain ⟨k, w⟩ := e
    obtain ⟨hk, hrest⟩ : ¬ name = k ∧ name ∉ names entries := by simpa [names] using h
    rw [put, if_neg (fun heq => hk heq.symm), ih hrest, List.cons_append]

theorem names_put_of_mem {name : String} {v : Value} {entries : Entries} (h : name ∈ names entries) :
    names (put name v entries) = names entries := by
  induction entries with
  | nil => cases h
  | cons e entries ih =>
    obtain ⟨k, w⟩ := e
    by_cases hk : k = name
    · rw [put, if_pos hk]
      rfl
    · have hrest : name ∈ names entries := (List.mem_cons.mp h).resolve_left fun heq => hk heq.symm
      rw [put, if_neg hk]
      exact congrArg (k :: ·) (ih hrest)

theorem nodup_names_put {name : String} {v : Value} {entries : Entries} (h : (names entries).Nodup) :
    (names (put name v entries)).Nodup := by
  by_cases hmem : name ∈ names entries
  · rw [names_put_of_mem hmem]
    exact h
  · rw [put_of_notMem hmem, names, List.map_append]
    refine List.nodup_append.mpr ⟨h, List.pairwise_singleton _ name, ?_⟩
    rintro other hother _ hname rfl
    have hsame : other = name := List.mem_singleton.mp hname
    exact hmem (hsame ▸ hother)

theorem eq_or_mem_of_mem_put {name : String} {v : Value} {entries : Entries} {e : String × Value}
    (h : e ∈ put name v entries) : e = (name, v) ∨ e ∈ entries := by
  induction entries with
  | nil => exact Or.inl (List.mem_singleton.mp h)
  | cons first entries ih =>
    obtain ⟨k, w⟩ := first
    by_cases hk : k = name
    · rw [put, if_pos hk, List.mem_cons, hk] at h
      exact h.imp_right (List.mem_cons_of_mem _)
    · rw [put, if_neg hk] at h
      rcases List.mem_cons.mp h with rfl | hrest
      · exact Or.inr List.mem_cons_self
      · exact (ih hrest).imp_right (List.mem_cons_of_mem _)

theorem putAll_of_nodup {entries more : Entries} (h : (names (entries ++ more)).Nodup) :
    putAll entries more = entries ++ more := by
  induction more generalizing entries with
  | nil => rw [putAll, List.append_nil]
  | cons e more ih =>
    obtain ⟨k, v⟩ := e
    have hk : k ∉ names entries := by
      intro hmem
      rw [names, List.map_append] at h
      exact (List.nodup_append.mp h).2.2 k hmem k List.mem_cons_self rfl
    have hsplit : entries ++ (k, v) :: more = (entries ++ [(k, v)]) ++ more := by simp
    rw [hsplit] at h ⊢
    rw [putAll, put_of_notMem hk, ih h]

/-- A record whose names are all different is made of its entries. -/
theorem ofList_of_nodup {entries : Entries} (h : (names entries).Nodup) : ofList entries = entries :=
  putAll_of_nodup h

theorem value?_put {name other : String} {v : Value} {entries : Entries} :
    value? name (put other v entries) = if other = name then some v else value? name entries := by
  induction entries with
  | nil => rfl
  | cons e entries ih =>
    obtain ⟨k, w⟩ := e
    by_cases hother : k = other
    · subst hother
      rw [put, if_pos rfl, value?, value?]
      split <;> rfl
    · rw [put, if_neg hother, value?, ih, value?]
      by_cases hk : k = name
      · have hne : ¬ other = name := fun h => hother (hk.trans h.symm)
        rw [if_pos hk, if_neg hne, if_pos hk]
      · rw [if_neg hk, if_neg hk]

/-- Entries that are written later count. -/
theorem value?_putAll {name : String} {entries more : Entries} (hnames : (names more).Nodup) :
    value? name (putAll entries more) = (value? name more).or (value? name entries) := by
  induction more generalizing entries with
  | nil => rfl
  | cons e more ih =>
    obtain ⟨k, v⟩ := e
    obtain ⟨hk, hrest⟩ : k ∉ names more ∧ (names more).Nodup := List.nodup_cons.mp hnames
    rw [putAll, ih hrest, value?_put, value?]
    by_cases hname : k = name
    · subst hname
      rw [if_pos rfl, if_pos rfl, value?_eq_none_iff.mpr hk]
      rfl
    · rw [if_neg hname, if_neg hname]

theorem value?_filter {p : String → Bool} {name : String} (h : p name = true) (entries : Entries) :
    value? name (entries.filter fun e => p e.1) = value? name entries := by
  induction entries with
  | nil => rfl
  | cons e entries ih =>
    obtain ⟨k, v⟩ := e
    by_cases hk : k = name
    · subst hk
      have hkept : ((k, v) :: entries).filter (fun e => p e.1) =
          (k, v) :: entries.filter fun e => p e.1 := List.filter_cons_of_pos h
      rw [hkept, value?, value?, if_pos rfl, if_pos rfl]
    · rw [value?, if_neg hk, ← ih, List.filter_cons]
      split
      · rw [value?, if_neg hk]
      · rfl

/-- Entries under other names do not count. -/
theorem value?_eq_of_filter_eq {p : String → Bool} {name : String} (h : p name = true)
    {entries other : Entries}
    (hsame : entries.filter (fun e => p e.1) = other.filter fun e => p e.1) :
    value? name entries = value? name other := by
  rw [← value?_filter h entries, hsame, value?_filter h]

end Helpdesk.Entries
