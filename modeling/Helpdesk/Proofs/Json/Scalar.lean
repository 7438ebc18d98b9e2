import Helpdesk.Decimal.Spelled
import Helpdesk.Json.Reader
import Helpdesk.Json.Writer
import Mathlib.Algebra.Group.Int.Defs
import Mathlib.Algebra.Group.Nat.Defs
import Mathlib.Data.List.TakeWhile
import Mathlib.Tactic.SplitIfs

/-!
# Helpdesk.Proofs.Json.Scalar — numbers and words in JSON text.

A number ends where no further character can belong to it. Everything here is about such ends: a
number that takes up a whole text is read in the same way when the text goes on behind an end, and an
integer in decimal digits is read as itself up to the limit on digits. What the reader makes of the
digits of a float is not opened; that a float reads back at all is for its user to know.
-/
namespace Helpdesk.Json

open Decimal (splitSign)

/-! ## Where numbers end -/

/-- No character follows that could belong to a number. -/
def EndsNumber (rest : List Char) : Prop :=
  ∀ c ∈ rest.head?, c.isDigit = false ∧ c ≠ '.' ∧ c ≠ 'e' ∧ c ≠ 'E'

theorem takeWhile_isDigit_append {rest : List Char} (hrest : EndsNumber rest) (ds : List Char) :
    (ds ++ rest).takeWhile Char.isDigit = ds.takeWhile Char.isDigit := by
  induction ds with
  | nil =>
    cases rest with
    | nil => rfl
    | cons c rest => simp [(hrest c rfl).1]
  | cons d ds ih => cases hd : d.isDigit <;> simp [hd, ih]

theorem dropWhile_isDigit_append {rest : List Char} (hrest : EndsNumber rest) (ds : List Char) :
    (ds ++ rest).dropWhile Char.isDigit = ds.dropWhile Char.isDigit ++ rest := by
  induction ds with
  | nil =>
    cases rest with
    | nil => rfl
    | cons c rest => simp [(hrest c rfl).1]
  | cons d ds ih => cases hd : d.isDigit <;> simp [hd, ih]

theorem readExponent?_of_endsNumber {rest : List Char} (hrest : EndsNumber rest) :
    readExponent? rest = none := by
  cases rest with
  | nil => rfl
  | cons c rest =>
    obtain ⟨-, -, he, hE⟩ := hrest c rfl
    simp [readExponent?, he, hE]

/-- The power that digits spell. -/
def powerOf (negative : Bool) (ds : List Char) : Int :=
  if negative then -(Decimal.ofDigits ds : Int) else Decimal.ofDigits ds

theorem readExponent?_cons (e : Char) (cs : List Char) :
    readExponent? (e :: cs) =
      if e = 'e' ∨ e = 'E' then
        if ((splitSign cs).2.takeWhile Char.isDigit).isEmpty then none
        else some (powerOf (splitSign cs).1 ((splitSign cs).2.takeWhile Char.isDigit),
          (splitSign cs).2.dropWhile Char.isDigit)
      else none :=
  rfl

theorem splitSign_append {cs : List Char} (h : cs ≠ []) (rest : List Char) :
    splitSign (cs ++ rest) = ((splitSign cs).1, (splitSign cs).2 ++ rest) := by
  rcases cs with _ | ⟨c, cs⟩
  · exact absurd rfl h
  · rw [List.cons_append]
    unfold splitSign
    split <;> split <;> simp_all

/-- An exponent is read in the same way when something else follows it. -/
theorem readExponent?_append {cs rest r : List Char} {p : Int} (hrest : EndsNumber rest)
    (h : readExponent? cs = some (p, r)) : readExponent? (cs ++ rest) = some (p, r ++ rest) := by
  rcases cs with _ | ⟨e, cs⟩
  · simp [readExponent?] at h
  rw [readExponent?_cons] at h
  split_ifs at h with hmark hempty
  obtain ⟨rfl, rfl⟩ := Prod.mk.inj (Option.some.inj h)
  have hne : cs ≠ [] := by
    rintro rfl
    exact hempty rfl
  rw [List.cons_append, readExponent?_cons, if_pos hmark, splitSign_append hne]
  simp only [takeWhile_isDigit_append hrest, dropWhile_isDigit_append hrest, if_neg hempty]

theorem wholeDigits_append {rest : List Char} (hrest : EndsNumber rest) (cs : List Char) :
    wholeDigits (cs ++ rest) = wholeDigits cs := by
  unfold wholeDigits
  rcases cs with _ | ⟨c, cs⟩
  · rcases rest with _ | ⟨d, rest⟩
    · rfl
    · have hd := (hrest d rfl).1
      split
      · simp_all
      · simp [hd]
  · split <;> split <;> simp_all [takeWhile_isDigit_append hrest, List.takeWhile_cons]

theorem length_wholeDigits_le (cs : List Char) : (wholeDigits cs).length ≤ cs.length := by
  unfold wholeDigits
  split
  · simp
  · exact (List.takeWhile_prefix _).length_le

theorem fractionDigits_append {rest : List Char} (hrest : EndsNumber rest) (cs : List Char) :
    fractionDigits (cs ++ rest) = fractionDigits cs := by
  unfold fractionDigits
  rcases cs with _ | ⟨c, cs⟩
  · rcases rest with _ | ⟨d, rest⟩
    · rfl
    · have hd := (hrest d rfl).2.1
      split <;> simp_all
  · by_cases hc : c = '.'
    · subst hc
      exact takeWhile_isDigit_append hrest cs
    · simp [hc]

theorem length_fractionDigits_lt {cs : List Char} (h : fractionDigits cs ≠ []) :
    (fractionDigits cs).length < cs.length := by
  unfold fractionDigits at h ⊢
  split at h
  · simpa [Nat.lt_succ_iff] using (List.takeWhile_prefix Char.isDigit).length_le
  · exact absurd rfl h

theorem skipFraction_append {rest : List Char} (hrest : EndsNumber rest) (cs : List Char) :
    skipFraction (cs ++ rest) = skipFraction cs ++ rest := by
  unfold skipFraction
  rw [fractionDigits_append hrest]
  split
  · rfl
  · next hne =>
    have hlength := length_fractionDigits_lt (mt List.isEmpty_iff.mpr hne)
    exact List.drop_append_of_le_length hlength

/-- **A number is read in the same way when something else follows it.** -/
theorem readNumber_append {negative : Bool} {cs rest : List Char} {v : Value}
    (hrest : EndsNumber rest) (h : readNumber negative cs = .ok (v, [])) :
    readNumber negative (cs ++ rest) = .ok (v, rest) := by
  unfold readNumber at h ⊢
  simp only [wholeDigits_append hrest, List.drop_append_of_le_length (length_wholeDigits_le cs),
    fractionDigits_append hrest, skipFraction_append hrest] at h ⊢
  by_cases hwhole : (wholeDigits cs).isEmpty
  · simp [hwhole] at h
  rw [if_neg hwhole] at h ⊢
  generalize cs.drop (wholeDigits cs).length = tail at h ⊢
  rcases hexponent : readExponent? (skipFraction tail) with _ | ⟨power, r⟩
  · -- All of the text was read, so what follows is looked at as an exponent, and is none.
    rcases hfraction : fractionDigits tail with _ | ⟨d, ds⟩
    · have hskip : skipFraction tail = tail := if_pos (List.isEmpty_iff.mpr hfraction)
      rw [hexponent, hfraction] at h
      by_cases hhuge : maxIntegerDigits < (wholeDigits cs).length
      · simp [hhuge] at h
      rw [if_neg hhuge] at h
      obtain ⟨rfl, rfl⟩ := Prod.mk.inj (Except.ok.inj h)
      rw [hskip, List.nil_append, readExponent?_of_endsNumber hrest]
      exact if_neg hhuge
    · rw [hexponent, hfraction] at h
      obtain ⟨rfl, hend⟩ := Prod.mk.inj (Except.ok.inj h)
      rw [hend, List.nil_append, readExponent?_of_endsNumber hrest]
  · rw [hexponent] at h
    rw [readExponent?_append hrest hexponent]
    generalize fractionDigits tail = fraction at h ⊢
    rcases fraction with _ | ⟨d, ds⟩ <;>
      (obtain ⟨rfl, rfl⟩ := Prod.mk.inj (Except.ok.inj h); rfl)

/-! ## Words, and what a value starts with -/

theorem isDigit_of_readNumber {negative : Bool} {c : Char} {cs : List Char}
    {p : Value × List Char} (h : readNumber negative (c :: cs) = .ok p) : c.isDigit = true := by
  cases hc : c.isDigit with
  | true => rfl
  | false =>
    have hwhole : wholeDigits (c :: cs) = [] := by
      unfold wholeDigits
      split
      · simp_all
      · simp [hc]
    simp [readNumber, hwhole] at h

theorem readWord?_append {cs r : List Char} {v : Value} (rest : List Char)
    (h : readWord? cs = some (v, r)) : readWord? (cs ++ rest) = some (v, r ++ rest) := by
  unfold readWord? at h
  split at h <;> simp_all [readWord?]

theorem readWord?_of_isDigit {c : Char} {cs : List Char} (h : c.isDigit = true) :
    readWord? (c :: cs) = none := by
  unfold readWord?
  split <;> simp_all

theorem readWord?_minus_of_isDigit {c : Char} {cs : List Char} (h : c.isDigit = true) :
    readWord? ('-' :: c :: cs) = none := by
  unfold readWord?
  split <;> simp_all

/-! ## Integers -/

theorem ofDigits_toDigits (m : Nat) : Decimal.ofDigits (Nat.toDigits 10 m) = m := by
  have hfold : Decimal.ofDigits (Nat.toDigits 10 m) = Nat.ofDigitChars 10 (Nat.toDigits 10 m) 0 := by
    rw [Nat.ofDigitChars_eq_foldl]
    rfl
  rw [hfold, Nat.ofDigitChars_ten_toDigits]

theorem isDigit_of_mem_toDigits {m : Nat} {c : Char} (h : c ∈ Nat.toDigits 10 m) :
    c.isDigit = true :=
  Nat.isDigit_of_mem_toDigits (by decide) (by decide) h

/-- Decimal digits start with a zero only when they spell zero. -/
theorem eq_nil_of_toDigits_eq_cons {m : Nat} {ds : List Char} (h : Nat.toDigits 10 m = '0' :: ds) :
    ds = [] := by
  induction m using Nat.strongRecOn generalizing ds with
  | ind m ih =>
    by_cases hm : m < 10
    · rw [Nat.toDigits_of_lt_base hm] at h
      exact (List.cons.inj h).2.symm
    · rw [Nat.toDigits_of_base_le (by decide) (by omega)] at h
      rcases hhead : Nat.toDigits 10 (m / 10) with _ | ⟨d, front⟩
      · exact absurd hhead Nat.toDigits_ne_nil
      · rw [hhead, List.cons_append] at h
        obtain ⟨rfl, -⟩ := List.cons.inj h
        have hfront : front = [] := ih (m / 10) (by omega) hhead
        have hzero : m / 10 = 0 := by
          rw [← ofDigits_toDigits (m / 10), hhead, hfront]
          rfl
        omega

theorem wholeDigits_toDigits (m : Nat) : wholeDigits (Nat.toDigits 10 m) = Nat.toDigits 10 m := by
  unfold wholeDigits
  split
  · next ds heq => rw [heq, eq_nil_of_toDigits_eq_cons heq]
  · exact List.takeWhile_eq_self_iff.mpr fun c hc => isDigit_of_mem_toDigits hc

/-- **Integers read back up to the limit on their digits, and not beyond it.** -/
theorem readNumber_toDigits {rest : List Char} (hrest : EndsNumber rest) (negative : Bool) (m : Nat) :
    readNumber negative (Nat.toDigits 10 m ++ rest) =
      if m < 10 ^ maxIntegerDigits then .ok (.int (if negative then -m else m), rest)
      else .error .hugeInteger := by
  have hfraction : fractionDigits rest = [] := fractionDigits_append hrest []
  have hskip : skipFraction rest = rest := if_pos (List.isEmpty_iff.mpr hfraction)
  have hdigits : (Nat.toDigits 10 m).isEmpty = false :=
    List.isEmpty_eq_false_iff.mpr Nat.toDigits_ne_nil
  have hlimit : maxIntegerDigits < (Nat.toDigits 10 m).length ↔ ¬ m < 10 ^ maxIntegerDigits := by
    rw [← Nat.length_toDigits_le_iff (by decide) (by decide)]
    omega
  unfold readNumber
  simp only [wholeDigits_append hrest, wholeDigits_toDigits, List.drop_left, hdigits, hfraction, hskip,
    readExponent?_of_endsNumber hrest, ofDigits_toDigits, Bool.false_eq_true, ↓reduceIte]
  by_cases hm : m < 10 ^ maxIntegerDigits
  · rw [if_pos hm, if_neg (fun h => hlimit.mp h hm)]
  · rw [if_neg hm, if_pos (hlimit.mpr hm)]

/-! ## Words and numbers in front of other text -/

theorem readScalar_of_isDigit {c : Char} {cs : List Char} (h : c.isDigit = true) :
    readScalar (c :: cs) = readNumber false (c :: cs) := by
  have hminus : c ≠ '-' := by
    rintro rfl
    exact absurd h (by decide)
  have hword : readWord? (c :: cs) = none := readWord?_of_isDigit h
  unfold readScalar
  split <;> simp_all

theorem readScalar_minus_of_isDigit {c : Char} {cs : List Char} (h : c.isDigit = true) :
    readScalar ('-' :: c :: cs) = readNumber true (c :: cs) := by
  rw [readScalar, readWord?_minus_of_isDigit h]

/-- A word or a number is read in the same way when something else follows it. -/
theorem readScalar_append {cs rest : List Char} {v : Value} (hrest : EndsNumber rest)
    (h : readScalar cs = .ok (v, [])) : readScalar (cs ++ rest) = .ok (v, rest) := by
  unfold readScalar at h
  split at h
  · next found hword =>
    obtain rfl := Except.ok.inj h
    have hlonger := readWord?_append rest hword
    simp only [readScalar, hlonger, List.nil_append]
  · next hword =>
    split at h
    · next cs =>
      rcases cs with _ | ⟨c, cs⟩
      · exact absurd h (by simp [readNumber, wholeDigits])
      · have hc := isDigit_of_readNumber h
        rw [List.cons_append, List.cons_append, readScalar_minus_of_isDigit hc, ← List.cons_append]
        exact readNumber_append hrest h
    · next hminus =>
      rcases cs with _ | ⟨c, cs⟩
      · exact absurd h (by simp [readNumber, wholeDigits])
      · have hc := isDigit_of_readNumber h
        rw [List.cons_append, readScalar_of_isDigit hc, ← List.cons_append]
        exact readNumber_append hrest h

theorem splitSign_suffix (cs : List Char) : (splitSign cs).2 <:+ cs := by
  unfold splitSign
  split
  · exact List.suffix_cons _ _
  · exact List.suffix_cons _ _
  · exact List.suffix_rfl

theorem readExponent?_suffix {cs r : List Char} {p : Int} (h : readExponent? cs = some (p, r)) :
    r <:+ cs := by
  rcases cs with _ | ⟨e, cs⟩
  · simp [readExponent?] at h
  rw [readExponent?_cons] at h
  split_ifs at h
  obtain ⟨-, rfl⟩ := Prod.mk.inj (Option.some.inj h)
  exact (List.dropWhile_suffix _).trans ((splitSign_suffix cs).trans (List.suffix_cons e cs))

theorem skipFraction_suffix (cs : List Char) : skipFraction cs <:+ cs := by
  unfold skipFraction
  split
  · exact List.suffix_rfl
  · exact List.drop_suffix _ _

theorem readNumber_suffix {negative : Bool} {cs r : List Char} {v : Value}
    (h : readNumber negative cs = .ok (v, r)) : r <:+ cs := by
  have hwhole : cs.drop (wholeDigits cs).length <:+ cs := List.drop_suffix _ _
  unfold readNumber at h
  simp only at h
  split at h
  · cases h
  split at h
  · split at h
    · cases h
    · cases h
      exact hwhole
  · cases h
    exact (skipFraction_suffix _).trans hwhole
  · next hexponent =>
    cases h
    exact (readExponent?_suffix hexponent).trans ((skipFraction_suffix _).trans hwhole)

theorem readWord?_suffix {cs r : List Char} {v : Value} (h : readWord? cs = some (v, r)) :
    r <:+ cs := by
  unfold readWord? at h
  split at h
  case h_7 => cases h
  all_goals
    obtain ⟨-, rfl⟩ := Prod.mk.inj (Option.some.inj h)
    simp [List.suffix_cons_iff]

theorem readScalar_suffix {cs r : List Char} {v : Value} (h : readScalar cs = .ok (v, r)) :
    r <:+ cs := by
  unfold readScalar at h
  split at h
  · next hword =>
    obtain rfl := Except.ok.inj h
    exact readWord?_suffix hword
  · split at h
    · exact (readNumber_suffix h).trans (List.suffix_cons _ _)
    · exact readNumber_suffix h

/-! ## Floats as they are written -/

theorem eq_of_isSpace {c : Char} (h : isSpace c = true) :
    c = ' ' ∨ c = '\t' ∨ c = '\n' ∨ c = '\r' := by
  simpa [isSpace, or_assoc] using h

theorem isSpace_of_isDigit {c : Char} (h : c.isDigit = true) : isSpace c = false := by
  cases hspace : isSpace c with
  | false => rfl
  | true => rcases eq_of_isSpace hspace with rfl | rfl | rfl | rfl <;> exact absurd h (by decide)

theorem isSpace_of_mem_decimal {n : Int} : ∀ c ∈ (decimal n).toList, isSpace c = false := by
  intro c hc
  have hdigits : ∀ d ∈ Nat.toDigits 10 n.natAbs, isSpace d = false :=
    fun d hd => isSpace_of_isDigit (isDigit_of_mem_toDigits hd)
  by_cases hn : n < 0
  · have hchars : (decimal n).toList = '-' :: Nat.toDigits 10 n.natAbs := by
      simp [decimal, hn, Decimal.digits]
    rw [hchars] at hc
    rcases List.mem_cons.mp hc with rfl | hd
    · rfl
    · exact hdigits c hd
  · rw [decimal, if_neg hn, String.toList_ofList] at hc
    exact hdigits c hc

theorem isDigit_of_mem_padZeros {width : Nat} {ds : List Char} (hds : ∀ c ∈ ds, c.isDigit = true) :
    ∀ c ∈ Decimal.padZeros width ds, c.isDigit = true := by
  intro c hc
  rcases List.mem_append.mp hc with hzero | hdigit
  · rw [List.eq_of_mem_replicate hzero]
    rfl
  · exact hds c hdigit

theorem isDigit_of_mem_pointed (s : Decimal.Scientific) :
    ∀ c ∈ s.pointed.1, c.isDigit = true := by
  intro c hc
  have hkept := (List.dropWhile_sublist _).subset (List.mem_reverse.mp hc)
  exact isDigit_of_mem_toDigits (List.mem_reverse.mp hkept)

theorem isSpace_of_mem_place (layout : Decimal.Layout) {ds : List Char} (point : Int)
    (hds : ∀ c ∈ ds, c.isDigit = true) : ∀ c ∈ layout.place ds point, isSpace c = false := by
  have hspace : ∀ c ∈ ds, isSpace c = false := fun c hc => isSpace_of_isDigit (hds c hc)
  have hpower : ∀ n : Nat, ∀ c ∈ Decimal.padZeros 2 (Decimal.digits n), isSpace c = false :=
    fun n c hc => isSpace_of_isDigit
      (isDigit_of_mem_padZeros (fun d hd => isDigit_of_mem_toDigits hd) c hc)
  have hzeros : ∀ n, ∀ c ∈ List.replicate n '0', isSpace c = false := by
    intro n c hc
    rw [List.eq_of_mem_replicate hc]
    rfl
  intro c hc
  unfold Decimal.Layout.place at hc
  split_ifs at hc
  · simp only [List.mem_append, List.mem_cons, List.not_mem_nil, or_false] at hc
    rcases hc with ((rfl | rfl) | hc) | hc
    · rfl
    · rfl
    · exact hzeros _ c hc
    · exact hspace c hc
  · simp only [List.mem_append, List.mem_cons, List.not_mem_nil, or_false] at hc
    rcases hc with (hc | hc) | rfl | rfl
    · exact hspace c hc
    · exact hzeros _ c hc
    · rfl
    · rfl
  · simp only [List.mem_append, List.mem_cons] at hc
    rcases hc with hc | rfl | hc
    · exact hspace c (List.mem_of_mem_take hc)
    · rfl
    · exact hspace c (List.mem_of_mem_drop hc)
  · simp only [List.mem_append, List.mem_cons, List.not_mem_nil, or_false] at hc
    rcases hc with (hc | rfl | rfl) | hc
    · split at hc
      · by_cases hpoint : c = '.'
        · rw [hpoint]
          rfl
        · exact hspace c (by simpa [hpoint] using hc)
      · exact hspace c hc
    · rfl
    · split <;> rfl
    · exact hpower _ c hc

/-- No float is written with a blank. -/
theorem isSpace_of_mem_write {x : Float} : ∀ c ∈ (floats.write x).toList, isSpace c = false := by
  -- Looked through as lists, because all characters there are would be gone through otherwise.
  have hlooked : ∀ cs : List Char, (cs.all fun c => !isSpace c) = true →
      ∀ c ∈ cs, isSpace c = false := by
    intro cs hall c hc
    simpa using List.all_eq_true.mp hall c hc
  unfold Decimal.Layout.write
  split
  · split_ifs
    · exact hlooked floats.nan.toList (by decide)
    · exact hlooked floats.negativeInfinity.toList (by decide)
    · exact hlooked floats.infinity.toList (by decide)
  · next b _ =>
    have hsign : ∀ c ∈ (if b.negative then ['-'] else []), isSpace c = false := by
      refine hlooked _ ?_
      split <;> decide
    intro c hc
    by_cases hzero : b.significand = 0
    · simp only [if_pos hzero, String.toList_ofList] at hc
      rcases List.mem_append.mp hc with hc | hc
      · exact hsign c hc
      · exact hlooked ['0', '.', '0'] (by decide) c hc
    · simp only [if_neg hzero, String.toList_ofList] at hc
      rcases List.mem_append.mp hc with hc | hc
      · exact hsign c hc
      · exact isSpace_of_mem_place _ _ (isDigit_of_mem_pointed _) c hc

end Helpdesk.Json
