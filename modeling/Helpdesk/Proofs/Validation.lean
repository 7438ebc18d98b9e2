import Helpdesk.Validation
import Mathlib.Data.List.Forall2

/-!
# Helpdesk.Proofs.Validation — what a record that was read is made of.

A record is valid when all its fields are, and then it holds what was read for each of them. A field
is read from the entry of its name when there is one, else it is missing or has its default. A list is
read when each of its items is. In the same way a computation that may fail has a result when each part
of it has one.
-/
namespace Helpdesk

variable {α β ε : Type}

theorem bind_eq_ok_iff {found : Except ε α} {next : α → Except ε β} {b : β} :
    found >>= next = .ok b ↔ ∃ a, found = .ok a ∧ next a = .ok b := by
  rcases found with e | a
  · exact ⟨fun h => (by cases h), fun ⟨a, ha, _⟩ => (by cases ha)⟩
  · exact ⟨fun h => ⟨a, rfl, h⟩, fun ⟨a', ha, h⟩ => (by cases ha; exact h)⟩

theorem map_eq_ok_iff {found : Except ε α} {f : α → β} {b : β} :
    found.map f = .ok b ↔ ∃ a, found = .ok a ∧ f a = b := by
  rcases found with e | a <;> simp [Except.map]

theorem mapM_eq_ok {f : α → Except ε β} {g : α → β} {items : List α}
    (h : ∀ a ∈ items, f a = .ok (g a)) : items.mapM f = .ok (items.map g) := by
  induction items with
  | nil => rfl
  | cons a rest ih =>
    rw [List.mapM_cons, h a List.mem_cons_self,
      ih fun b hb => h b (List.mem_cons_of_mem _ hb)]
    rfl

/-- A list is gone through to its end, or as far as the first item that fails. -/
theorem mapM_cases {f : α → Except ε β} (items : List α) :
    (∃ found, items.mapM f = .ok found ∧ ∀ a ∈ items, ∃ b, f a = .ok b) ∨
    ∃ a ∈ items, ∃ e, f a = .error e ∧ items.mapM f = .error e := by
  induction items with
  | nil => exact Or.inl ⟨[], rfl, fun a ha => absurd ha List.not_mem_nil⟩
  | cons a rest ih =>
    rw [List.mapM_cons]
    rcases ha : f a with e | b
    · exact Or.inr ⟨a, List.mem_cons_self, e, ha, rfl⟩
    rcases ih with ⟨found, hfound, hrest⟩ | ⟨odd, hodd, e, he, hfails⟩
    · refine Or.inl ⟨b :: found, by rw [hfound]; rfl, ?_⟩
      intro other hother
      rcases List.mem_cons.mp hother with rfl | hother
      · exact ⟨b, ha⟩
      · exact hrest other hother
    · exact Or.inr ⟨odd, List.mem_cons_of_mem _ hodd, e, he, by rw [hfails]; rfl⟩

theorem exists_mapM_eq_ok_iff {f : α → Except ε β} {items : List α} :
    (∃ found, items.mapM f = .ok found) ↔ ∀ a ∈ items, ∃ b, f a = .ok b := by
  rcases mapM_cases (f := f) items with ⟨found, hok, hall⟩ | ⟨a, ha, e, he, hfails⟩
  · exact iff_of_true ⟨found, hok⟩ hall
  · refine iff_of_false ?_ fun hall => ?_
    · rintro ⟨found, hok⟩
      rw [hfails] at hok
      cases hok
    · obtain ⟨b, hb⟩ := hall a ha
      rw [he] at hb
      cases hb

/-- What a list gives is what its items give, one by one. -/
theorem mapM_eq_ok_iff {f : α → Except ε β} {items : List α} {found : List β} :
    items.mapM f = .ok found ↔ List.Forall₂ (fun a b => f a = .ok b) items found := by
  induction items generalizing found with
  | nil =>
    rw [List.mapM_nil, List.forall₂_nil_left_iff]
    exact ⟨fun h => (Except.ok.inj h).symm, fun h => congrArg Except.ok h.symm⟩
  | cons a rest ih =>
    rw [List.mapM_cons, bind_eq_ok_iff, List.forall₂_cons_left_iff]
    constructor
    · rintro ⟨b, hb, hrest⟩
      obtain ⟨others, hothers, hcons⟩ := bind_eq_ok_iff.mp hrest
      exact ⟨b, others, hb, ih.mp hothers, (Except.ok.inj hcons).symm⟩
    · rintro ⟨b, others, hb, hothers, rfl⟩
      exact ⟨b, hb, bind_eq_ok_iff.mpr ⟨others, ih.mpr hothers, rfl⟩⟩

/-- Items are gone through with their numbers, which make no difference to whether one fails. -/
theorem exists_mapM_zipIdx_eq_ok_iff {f : α × Nat → Except ε β} {P : α → Prop}
    (h : ∀ a number, (∃ b, f (a, number) = .ok b) ↔ P a) (items : List α) (first : Nat) :
    (∃ found, (items.zipIdx first).mapM f = .ok found) ↔ ∀ a ∈ items, P a := by
  have hone : ∀ p : α × Nat, (∃ b, f p = .ok b) ↔ P p.1 := fun p => h p.1 p.2
  simp only [exists_mapM_eq_ok_iff, hone]
  rw [← List.forall_mem_map (f := Prod.fst) (P := P), List.zipIdx_map_fst]

theorem Checked.map_eq_valid_iff {f : α → β} {found : Checked α} {b : β} :
    f <$> found = .valid b ↔ ∃ a, found = .valid a ∧ f a = b := by
  show Checked.map f found = .valid b ↔ _
  rcases found with a | issues <;> simp [Checked.map]

theorem Checked.seq_eq_valid_iff {f : Checked (α → β)} {found : Checked α} {b : β} :
    f <*> found = .valid b ↔ ∃ g a, f = .valid g ∧ found = .valid a ∧ g a = b := by
  show Checked.both f found = .valid b ↔ _
  rcases f with g | issues <;> rcases found with a | more <;> simp [Checked.both]

theorem Checked.within_eq_valid_iff {step : String} {found : Checked α} {a : α} :
    found.within step = .valid a ↔ found = .valid a := by
  rcases found with b | issues <;> simp [Checked.within]

theorem Shape.required_of_value? {shape : Shape α} {name : String} {e : Entries} {v : Value}
    (h : Entries.value? name e = some v) :
    Shape.required [name] shape e = (shape v).within name := by
  simp only [Shape.required, Shape.present?, List.findSome?_cons, h, Option.map_some]

theorem Shape.optional_of_value? {shape : Shape α} {name : String} {e : Entries} {otherwise : α}
    (h : Entries.value? name e = none) : Shape.optional [name] shape otherwise e = .valid otherwise := by
  simp only [Shape.optional, Shape.present?, List.findSome?_cons, List.findSome?_nil, h,
    Option.map_none]

namespace Shape

variable {shape : Shape α} {a : α}

/-! ## Fields, nulls and lists -/

theorem record_object {fields : Entries → Checked α} (e : Entries) :
    record fields (.object e) = fields e := rfl

theorem required_of_present? {names : List String} {name : String} {v : Value} {e : Entries}
    (hfound : present? names e = some (name, v)) (hv : shape v = .valid a) :
    required names shape e = .valid a := by
  rw [required, hfound]
  exact Checked.within_eq_valid_iff.mpr hv

theorem optional_of_present? {names : List String} {name : String} {v : Value} {e : Entries}
    {otherwise : α} (hfound : present? names e = some (name, v)) (hv : shape v = .valid a) :
    optional names shape otherwise e = .valid a := by
  rw [Shape.optional, hfound]
  exact Checked.within_eq_valid_iff.mpr hv

theorem orNull_of_ne {v : Value} (h : v ≠ .null) : orNull shape v = (shape v).map some := by
  cases v with
  | null => exact absurd rfl h
  | _ => rfl

theorem itemsFrom_cons_eq_valid_iff {index good : Nat} {v : Value} {rest : List Value}
    {found : List α} :
    itemsFrom shape none index good (v :: rest) = .valid found ↔
      ∃ a more, shape v = .valid a ∧ itemsFrom shape none (index + 1) (good + 1) rest = .valid more ∧
        a :: more = found := by
  rw [itemsFrom]
  rcases shape v with a | issues
  · simp only [Checked.within, Option.any_none, Bool.false_eq_true, if_false]
    rcases itemsFrom shape none (index + 1) (good + 1) rest with more | issues <;>
      simp [Checked.map]
  · simp only [Checked.within]
    rcases itemsFrom shape none (index + 1) good rest with more | more
    · simp
    · simp only
      split <;> simp

/-- A list is read item by item. -/
theorem list_eq_valid_iff {items : List Value} {found : List α} :
    Shape.list shape (.list items) = .valid found ↔
      List.Forall₂ (fun v a => shape v = .valid a) items found := by
  -- Positions are for the issues, and without a limit the good items need not be counted.
  have hfrom (index good : Nat) : itemsFrom shape none index good items = .valid found ↔
      List.Forall₂ (fun v a => shape v = .valid a) items found := by
    induction items generalizing index good found with
    | nil => simp [itemsFrom, eq_comm]
    | cons v rest ih =>
      rw [itemsFrom_cons_eq_valid_iff, List.forall₂_cons_left_iff]
      simp only [ih, exists_and_left, @eq_comm _ found]
  rw [← hfrom 0 0]
  show (itemsFrom shape none 0 0 items).andThen _ = _ ↔ _
  rcases itemsFrom shape none 0 0 items with read | issues <;> simp [Checked.andThen]

theorem list_map {items : List α} {toValue : α → Value}
    (h : ∀ a ∈ items, shape (toValue a) = .valid a) :
    Shape.list shape (.list (items.map toValue)) = .valid items := by
  rw [list_eq_valid_iff, List.forall₂_map_left_iff]
  exact List.forall₂_same.mpr h

/-! ## Scalars are read as they are written -/

theorem text_text (s : String) : Shape.text (.text s) = .valid s := rfl

theorem asText_text (s : String) : asText (.text s) = .valid s := rfl

theorem bool_bool (b : Bool) : Shape.bool (.bool b) = .valid b := rfl

theorem int_int (n : Int) : Shape.int (.int n) = .valid n := rfl

theorem orNull_text_ofText? (text : Option String) : orNull .text (.ofText? text) = .valid text := by
  cases text <;> rfl

theorem orNull_int_ofInt? (n : Option Int) : orNull .int (.ofInt? n) = .valid n := by
  cases n <;> rfl

theorem asTextOrNull_ofText? (text : Option String) :
    asTextOrNull (.ofText? text) = .valid text := by
  cases text <;> rfl

/-! ## What is true of everything that is read -/

/-- Whatever a reader finds has a property. -/
def Ensures (shape : Shape α) (P : α → Prop) : Prop :=
  ∀ v a, shape v = .valid a → P a

namespace Ensures

variable {P : α → Prop}

theorem optional (h : shape.Ensures P) {names : List String} {otherwise : α} {e : Entries}
    (hfound : Shape.optional names shape otherwise e = .valid a) (hotherwise : P otherwise) : P a := by
  rw [Shape.optional] at hfound
  rcases hpresent : present? names e with _ | ⟨name, v⟩
  · rw [hpresent] at hfound
    cases hfound
    exact hotherwise
  · rw [hpresent] at hfound
    exact h v a (Checked.within_eq_valid_iff.mp hfound)

theorem orNull (h : shape.Ensures P) : shape.orNull.Ensures fun o => ∀ a ∈ o, P a := by
  intro v o hfound a ha
  by_cases hnull : v = .null
  · subst hnull
    cases hfound
    cases ha
  · rw [orNull_of_ne hnull] at hfound
    obtain ⟨b, hb, rfl⟩ := Checked.map_eq_valid_iff.mp hfound
    cases ha
    exact h v a hb

theorem list (h : shape.Ensures P) : (Shape.list shape).Ensures fun found => ∀ a ∈ found, P a := by
  intro v found hfound
  cases v with
  | list items =>
    have hboth : List.Forall₂ (fun a v => P a ∧ shape v = .valid a) found items :=
      ((list_eq_valid_iff.mp hfound).imp fun v a hv => ⟨h v a hv, hv⟩).flip
    exact ((List.forall₂_and_left found items).mp hboth).1
  | _ => cases hfound

theorem record {fields : Entries → Checked α} (h : ∀ e a, fields e = .valid a → P a) :
    (Shape.record fields).Ensures P := by
  intro v a hfound
  cases v with
  | object e => exact h e a hfound
  | _ => cases hfound

end Ensures

end Shape

end Helpdesk
