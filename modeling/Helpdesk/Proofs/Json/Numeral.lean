import Helpdesk.Proofs.Json.RoundTrip
import Mathlib.Data.List.DropRight

/-!
# Helpdesk.Proofs.Json.Numeral — the JSON text of a value is read as some value.

A float is written as a numeral with a point or an exponent, and such a numeral is read as a float,
whichever one that is. So what was written is read, as a value of its own kind, unless an integer in
it has more digits than are read. Two facts settle what stands in the numeral: the first digit of a
shortest decimal is not a zero, and each of the four layouts puts a digit on both sides of its point
or an exponent behind its digits.
-/
namespace Helpdesk.Json

open Decimal (splitSign)

/-! ## Numerals -/

/-- Digits as they stand before a point: a zero alone, or digits that do not start with one. -/
def Whole (ds : List Char) : Prop :=
  ds ≠ [] ∧ (∀ c ∈ ds, c.isDigit = true) ∧ (ds.head? = some '0' → ds = ['0'])

/-- What follows the digits of a float: nothing, or an exponent up to the end. -/
def Tail (cs : List Char) : Prop :=
  cs = [] ∨ ∃ power, readExponent? cs = some (power, [])

theorem takeWhile_isDigit_append_of_head {ds rest : List Char} (hds : ∀ c ∈ ds, c.isDigit = true)
    (hrest : ∀ c ∈ rest.head?, c.isDigit = false) : (ds ++ rest).takeWhile Char.isDigit = ds := by
  rw [List.takeWhile_append_of_pos hds]
  rcases rest with _ | ⟨c, rest⟩
  · simp
  · simp [hrest c rfl]

theorem wholeDigits_of_whole {ds rest : List Char} (h : Whole ds)
    (hrest : ∀ c ∈ rest.head?, c.isDigit = false) : wholeDigits (ds ++ rest) = ds := by
  obtain ⟨hne, hdigits, hzero⟩ := h
  unfold wholeDigits
  split
  · next cs heq =>
    rcases ds with _ | ⟨d, ds⟩
    · exact absurd rfl hne
    · obtain ⟨rfl, -⟩ := List.cons.inj heq
      exact (hzero rfl).symm
  · exact takeWhile_isDigit_append_of_head hdigits hrest

theorem Tail.head {cs : List Char} (h : Tail cs) : ∀ c ∈ cs.head?, c.isDigit = false := by
  intro c hc
  rcases h with rfl | ⟨power, hpower⟩
  · cases hc
  · rcases cs with _ | ⟨d, cs⟩
    · cases hc
    · obtain rfl := Option.some.inj hc
      by_cases hd : d = 'e' ∨ d = 'E'
      · rcases hd with rfl | rfl <;> rfl
      · simp [readExponent?, hd] at hpower

theorem exists_readNumber_point {whole fraction tail : List Char} (hwhole : Whole whole)
    (hne : fraction ≠ []) (hfraction : ∀ c ∈ fraction, c.isDigit = true) (htail : Tail tail)
    (negative : Bool) :
    ∃ x, readNumber negative (whole ++ '.' :: (fraction ++ tail)) = .ok (.float x, []) := by
  have hfront : wholeDigits (whole ++ '.' :: (fraction ++ tail)) = whole :=
    wholeDigits_of_whole hwhole (by simp)
  have hdigits : fractionDigits ('.' :: (fraction ++ tail)) = fraction :=
    takeWhile_isDigit_append_of_head hfraction htail.head
  have hskip : skipFraction ('.' :: (fraction ++ tail)) = tail := by
    simp [skipFraction, hdigits, hne]
  obtain ⟨d, ds, rfl⟩ := List.exists_cons_of_ne_nil hne
  unfold readNumber
  simp only [hfront, List.drop_left, hdigits, hskip, List.isEmpty_iff, hwhole.1, if_false]
  rcases htail with rfl | ⟨power, hpower⟩
  · exact ⟨_, rfl⟩
  · rw [hpower]
    exact ⟨_, rfl⟩

theorem exists_readNumber_exponent {whole tail : List Char} (hwhole : Whole whole) {power : Int}
    (htail : readExponent? tail = some (power, [])) (negative : Bool) :
    ∃ x, readNumber negative (whole ++ tail) = .ok (.float x, []) := by
  have hhead := Tail.head (.inr ⟨power, htail⟩)
  have hfront : wholeDigits (whole ++ tail) = whole := wholeDigits_of_whole hwhole hhead
  have hdigits : fractionDigits tail = [] := by
    unfold fractionDigits
    split
    · simp [readExponent?] at htail
    · rfl
  have hskip : skipFraction tail = tail := by simp [skipFraction, hdigits]
  unfold readNumber
  simp only [hfront, List.drop_left, hdigits, hskip, List.isEmpty_iff, hwhole.1, if_false, htail]
  exact ⟨_, rfl⟩

/-! ## Shortest digits -/

theorem significand_eq_zero_of_readsBack_zero {b : Decimal.Binary} {scale : Int}
    (h : b.readsBack 0 scale = true) : b.significand = 0 := by
  by_contra hne
  have hstretch : 0 < Nat.pow 10 (-scale).toNat * Nat.pow 2 (b.exponent - 2).toNat :=
    Nat.mul_pos (Nat.pow_pos (by decide)) (Nat.pow_pos (by decide))
  unfold Decimal.Binary.readsBack at h
  simp only [Nat.zero_mul] at h
  have hgap : (if b.significand = Nat.pow 2 52 ∧ -1074 < b.exponent then 1 else 2) ≤ 2 := by
    split <;> omega
  have hlow : 0 < (4 * b.significand -
      if b.significand = Nat.pow 2 52 ∧ -1074 < b.exponent then 1 else 2) *
        (Nat.pow 10 (-scale).toNat * Nat.pow 2 (b.exponent - 2).toNat) :=
    Nat.mul_pos (by omega) hstretch
  split at h
  all_goals
    rw [Bool.and_eq_true, decide_eq_true_iff] at h
    exact absurd h.1 (by omega)

theorem readsBack_of_withDigits? {b : Decimal.Binary} {power : Int} {count : Nat}
    {s : Decimal.Scientific} (h : b.withDigits? power count = some s) :
    b.readsBack s.digits s.exponent = true := by
  unfold Decimal.Binary.withDigits? at h
  simp only at h
  split at h
  · cases h
  · cases h
    assumption
  · cases h
    assumption
  · split at h <;> (cases h; assumption)

theorem digits_shortest_ne_zero {b : Decimal.Binary} (h : b.significand ≠ 0) :
    b.shortest.digits ≠ 0 := by
  unfold Decimal.Binary.shortest
  simp only
  generalize b.leadingPower 640 (-325) = power
  rcases hfound : (List.range 17).findSome? fun i => b.withDigits? power (i + 1) with _ | s
  · exact h
  · obtain ⟨i, -, hs⟩ := List.exists_of_findSome?_eq_some hfound
    intro hzero
    have hback := readsBack_of_withDigits? hs
    rw [Option.getD_some] at hzero
    rw [hzero] at hback
    exact h (significand_eq_zero_of_readsBack_zero hback)

theorem exists_pointed_eq_cons {s : Decimal.Scientific} (h : s.digits ≠ 0) :
    ∃ d ds, s.pointed.1 = d :: ds ∧ d ≠ '0' := by
  rcases hall : Nat.toDigits 10 s.digits with _ | ⟨d, ds⟩
  · exact absurd hall Nat.toDigits_ne_nil
  have hd : d ≠ '0' := by
    rintro rfl
    have hnil := eq_nil_of_toDigits_eq_cons hall
    have hvalue := ofDigits_toDigits s.digits
    rw [hall, hnil] at hvalue
    exact h hvalue.symm
  have hpointed : s.pointed.1 = (Nat.toDigits 10 s.digits).rdropWhile (· == '0') := rfl
  rw [hpointed, hall]
  have hkept : (d :: ds).rdropWhile (· == '0') ≠ [] := by
    rw [Ne, List.rdropWhile_eq_nil_iff]
    intro hzeros
    exact hd (by simpa using hzeros d List.mem_cons_self)
  obtain ⟨e, es, hes⟩ := List.exists_cons_of_ne_nil hkept
  have hprefix : (d :: ds).rdropWhile (· == '0') <+: d :: ds := List.rdropWhile_prefix _ _
  rw [hes] at hprefix
  obtain ⟨hsame, -⟩ := List.cons_prefix_cons.mp hprefix
  exact ⟨e, es, hes, hsame ▸ hd⟩

/-! ## Floats as they are written -/

theorem whole_cons {d : Char} {ds : List Char} (hd : d ≠ '0')
    (hdigits : ∀ c ∈ d :: ds, c.isDigit = true) : Whole (d :: ds) :=
  ⟨List.cons_ne_nil _ _, hdigits, fun h => absurd (Option.some.inj h) hd⟩

theorem isDigit_of_mem_zeros {n : Nat} : ∀ c ∈ List.replicate n '0', c.isDigit = true := by
  intro c hc
  rw [List.eq_of_mem_replicate hc]
  rfl

/-- The exponent of a float as it is written. -/
theorem readExponent?_written (power : Int) :
    ∃ p, readExponent? ('e' :: (if power < 0 then '-' else '+') ::
      Decimal.padZeros 2 (Decimal.digits power.natAbs)) = some (p, []) := by
  have hdigits : ∀ c ∈ Decimal.padZeros 2 (Decimal.digits power.natAbs), c.isDigit = true :=
    isDigit_of_mem_padZeros fun c hc => isDigit_of_mem_toDigits hc
  have hne : Decimal.padZeros 2 (Decimal.digits power.natAbs) ≠ [] := by
    simp [Decimal.padZeros, Decimal.digits, Nat.toDigits_ne_nil]
  have hsign : ∀ ds, (splitSign ((if power < 0 then '-' else '+') :: ds)).2 = ds := by
    intro ds
    split <;> rfl
  rw [readExponent?_cons, if_pos (Or.inl rfl), hsign, List.takeWhile_eq_self_iff.mpr hdigits,
    if_neg (by simpa using hne), List.dropWhile_eq_nil_iff.mpr hdigits]
  exact ⟨_, rfl⟩

theorem exists_readNumber_place {d : Char} {ds : List Char} (hd : d ≠ '0')
    (hdigits : ∀ c ∈ d :: ds, c.isDigit = true) (layout : Decimal.Layout) (point : Int)
    (negative : Bool) :
    ∃ x, readNumber negative (layout.place (d :: ds) point) = .ok (.float x, []) := by
  have hds : ∀ c ∈ ds, c.isDigit = true := fun c hc => hdigits c (List.mem_cons_of_mem _ hc)
  have hnone : Tail [] := .inl rfl
  -- Each layout is a front, a point and digits, or a front and an exponent.
  unfold Decimal.Layout.place
  split_ifs with hplain hsmall hlong
  · have hzero : Whole ['0'] := ⟨by simp, by simp, fun _ => rfl⟩
    have hfraction : ∀ c ∈ List.replicate (-point).toNat '0' ++ d :: ds, c.isDigit = true :=
      List.forall_mem_append.mpr ⟨isDigit_of_mem_zeros, hdigits⟩
    obtain ⟨x, hx⟩ := exists_readNumber_point hzero (by simp) hfraction hnone negative
    rw [List.append_nil] at hx
    exact ⟨x, hx⟩
  · have hwhole : Whole (d :: (ds ++ List.replicate (point.toNat - (d :: ds).length) '0')) :=
      whole_cons hd (List.forall_mem_cons.mpr ⟨hdigits d List.mem_cons_self,
        List.forall_mem_append.mpr ⟨hds, isDigit_of_mem_zeros⟩⟩)
    obtain ⟨x, hx⟩ := exists_readNumber_point hwhole (List.cons_ne_nil '0' []) (by simp) hnone
      negative
    exact ⟨x, by simpa using hx⟩
  · obtain ⟨n, hn⟩ : ∃ n, point.toNat = n + 1 := ⟨point.toNat - 1, by omega⟩
    have hlength : n < ds.length := by
      simp only [List.length_cons] at hlong
      omega
    have hwhole : Whole (d :: ds.take n) :=
      whole_cons hd (List.forall_mem_cons.mpr ⟨hdigits d List.mem_cons_self,
        fun c hc => hds c (List.mem_of_mem_take hc)⟩)
    have hne : ds.drop n ≠ [] := by simpa using hlength
    obtain ⟨x, hx⟩ := exists_readNumber_point hwhole hne
      (fun c hc => hds c (List.mem_of_mem_drop hc)) hnone negative
    rw [hn]
    exact ⟨x, by simpa using hx⟩
  · obtain ⟨p, hp⟩ := readExponent?_written (point - 1)
    have hone : Whole [d] := whole_cons hd (by simpa using hdigits d List.mem_cons_self)
    rcases ds with _ | ⟨e, ds⟩
    · exact exists_readNumber_exponent hone hp negative
    · obtain ⟨x, hx⟩ :=
        exists_readNumber_point hone (List.cons_ne_nil e ds) hds (.inr ⟨p, hp⟩) negative
      exact ⟨x, by simpa using hx⟩

/-- **Every float is written as a text that is read as a float.** -/
theorem exists_readScalar_write (x : Float) :
    ∃ y, readScalar (floats.write x).toList = .ok (.float y, []) := by
  unfold Decimal.Layout.write
  split
  · split_ifs
    · exact ⟨_, rfl⟩
    · exact ⟨_, rfl⟩
    · exact ⟨_, rfl⟩
  · next b _ =>
    by_cases hzero : b.significand = 0
    · simp only [if_pos hzero, String.toList_ofList]
      split <;> exact ⟨_, rfl⟩
    · simp only [if_neg hzero, String.toList_ofList]
      obtain ⟨d, ds, hpointed, hd⟩ := exists_pointed_eq_cons (digits_shortest_ne_zero hzero)
      have hdigits := isDigit_of_mem_pointed b.shortest
      rw [hpointed] at hdigits ⊢
      obtain ⟨y, hy⟩ :=
        exists_readNumber_place hd hdigits floats b.shortest.pointed.2 b.negative
      rcases hplace : floats.place (d :: ds) b.shortest.pointed.2 with _ | ⟨c, cs⟩
      · rw [hplace] at hy
        simp [readNumber, wholeDigits] at hy
      rw [hplace] at hy
      have hc := isDigit_of_readNumber hy
      rcases hsign : b.negative
      · rw [hsign] at hy
        exact ⟨y, (readScalar_of_isDigit hc).trans hy⟩
      · rw [hsign] at hy
        exact ⟨y, (readScalar_minus_of_isDigit hc).trans hy⟩

/-! ## Values without long integers -/

/-- A value whose integers have no more digits than are read. -/
inductive Short : Value → Prop where
  | null : Short .null
  | bool (b : Bool) : Short (.bool b)
  | int {n : Int} (h : n.natAbs < 10 ^ maxIntegerDigits) : Short (.int n)
  | float (x : Float) : Short (.float x)
  | text (s : String) : Short (.text s)
  | list {items : List Value} (h : ∀ v ∈ items, Short v) : Short (.list items)
  | object {entries : Entries} (h : ∀ e ∈ entries, Short e.2) : Short (.object entries)

theorem exists_readsAs_float (x : Float) : ∃ y, ReadsAs (.float x) (.float y) := by
  obtain ⟨y, hy⟩ := exists_readScalar_write x
  refine ⟨y, fun fuel rest _ hrest => ?_⟩
  have hread := readScalar_append hrest hy
  rw [writeChars]
  rcases hchars : (floats.write x).toList with _ | ⟨c, cs⟩
  · rw [hchars] at hy
    simp [readScalar, readWord?, readNumber, wholeDigits] at hy
  · rw [hchars, List.cons_append] at hread
    rw [List.cons_append, readValue_eq_readScalar fuel _ (not_opens_of_readScalar hread), hread]

/-- Results that exist one by one exist for a whole list. -/
theorem exists_forall₂ {α β : Type} {R : α → β → Prop} {items : List α}
    (h : ∀ a ∈ items, ∃ b, R a b) : ∃ found, List.Forall₂ R items found := by
  induction items with
  | nil => exact ⟨[], .nil⟩
  | cons a items ih =>
    obtain ⟨b, hb⟩ := h a List.mem_cons_self
    obtain ⟨found, hfound⟩ := ih fun a ha => h a (List.mem_cons_of_mem _ ha)
    exact ⟨b :: found, .cons hb hfound⟩

theorem exists_readsAs_object {entries : Entries} (h : ∀ e ∈ entries, ∃ w, ReadsAs e.2 w) :
    ∃ found, ReadsAs (.object entries) (.object found) := by
  obtain ⟨found, hfound⟩ : ∃ found, List.Forall₂ EntryReadsAs entries found := by
    refine exists_forall₂ fun e he => ?_
    obtain ⟨w, hw⟩ := h e he
    exact ⟨(e.1, w), rfl, hw⟩
  exact ⟨_, readsAs_object hfound⟩

theorem exists_readsAs_of_short {v : Value} (h : Short v) : ∃ found, ReadsAs v found := by
  induction h with
  | null => exact ⟨_, readsAs_null⟩
  | bool b => exact ⟨_, readsAs_bool b⟩
  | int hn => exact ⟨_, readsAs_int hn⟩
  | float x =>
    obtain ⟨y, hy⟩ := exists_readsAs_float x
    exact ⟨_, hy⟩
  | text s => exact ⟨_, readsAs_text s⟩
  | list _ ih =>
    obtain ⟨found, hfound⟩ := exists_forall₂ ih
    exact ⟨_, readsAs_list hfound⟩
  | object _ ih =>
    obtain ⟨found, hfound⟩ := exists_readsAs_object ih
    exact ⟨_, hfound⟩

/-- **Objects without long integers are read as objects.** -/
theorem exists_read_write_object {entries : Entries} (h : Short (.object entries)) :
    ∃ found, read (write (.object entries)) = .ok (.object found) := by
  cases h with
  | object hvalues =>
    obtain ⟨found, hfound⟩ :=
      exists_readsAs_object fun e he => exists_readsAs_of_short (hvalues e he)
    exact ⟨found, hfound.read_write⟩

end Helpdesk.Json
