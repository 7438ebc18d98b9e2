import Helpdesk.Proofs.Score.Grid

/-!
# Helpdesk.Proofs.Score.Rounding — rounding keeps the order.

A mantissa that takes up too much room is shifted to the right, and of what is shifted out two bits
remain: the last one, and whether there was any other. Mantissa and bits together are one number,
and neither a shift nor the rounding at the end exchanges two such numbers. Across exponents it is
the place that grows: the largest mantissa of an exponent, carried over, makes the first place of
the next.

So the place of the float nearest to a value is a monotone function of the value, and as every float
is nearest to its own value, floats are ordered as their values are.
-/
namespace Helpdesk.Score

open Float.Model Float.Model.UnpackedFloat

/-! ## Rounding a mantissa -/

/-- A mantissa with the bits that were shifted out of it, as one number. -/
def code (em : ExtendedMantissa) : ℕ :=
  4 * em.mantissa + 2 * em.roundBit.toNat + em.stickyBit.toNat

theorem code_shiftRightOne (em : ExtendedMantissa) :
    code em.shiftRightOne = 2 * em.mantissa + (em.roundBit || em.stickyBit).toNat := by
  rcases Nat.mod_two_eq_zero_or_one em.mantissa with h | h <;>
    simp [code, ExtendedMantissa.shiftRightOne, h] <;> omega

theorem code_shiftRightOne_mono {a b : ExtendedMantissa} (h : code a ≤ code b) :
    code a.shiftRightOne ≤ code b.shiftRightOne := by
  rw [code_shiftRightOne, code_shiftRightOne]
  rcases a with ⟨m, _ | _, _ | _⟩ <;> rcases b with ⟨m', _ | _, _ | _⟩ <;>
    simp [code] at h ⊢ <;> omega

theorem code_shiftRight_mono {a b : ExtendedMantissa} (h : code a ≤ code b) (n : ℕ) :
    code (a >>> n) ≤ code (b >>> n) := by
  induction n with
  | zero => exact h
  | succ n ih => exact code_shiftRightOne_mono ih

theorem roundedMantissa_mono {a b : ExtendedMantissa} (h : code a ≤ code b) :
    a.roundedMantissa ≤ b.roundedMantissa := by
  rcases a with ⟨m, r, s⟩
  rcases b with ⟨m', r', s'⟩
  cases r <;> cases s <;> cases r' <;> cases s' <;>
    simp [code, ExtendedMantissa.roundedMantissa, ExtendedMantissa.accuracy,
      Accuracy.roundToNearestEven] at h ⊢ <;> omega

theorem roundedMantissa_bounds (em : ExtendedMantissa) :
    em.mantissa ≤ em.roundedMantissa ∧ em.roundedMantissa ≤ em.mantissa + 1 := by
  rcases em with ⟨m, r, s⟩
  cases r <;> cases s <;>
    simp [ExtendedMantissa.roundedMantissa, ExtendedMantissa.accuracy,
      Accuracy.roundToNearestEven]
  omega

theorem mantissa_shiftRight (em : ExtendedMantissa) (n : ℕ) :
    (em >>> n).mantissa = em.mantissa / 2 ^ n := by
  induction n with
  | zero => simp [HShiftRight.hShiftRight, Nat.repeat]
  | succ n ih =>
    show (em >>> n).mantissa / 2 = _
    rw [ih, Nat.div_div_eq_div_mul, Nat.pow_succ]

/-- An integer as a mantissa from which nothing was shifted out. -/
def whole (m : ℕ) : ExtendedMantissa :=
  ⟨m, false, false⟩

theorem shiftRight_add (em : ExtendedMantissa) (n k : ℕ) : em >>> (n + k) = (em >>> n) >>> k := by
  induction k with
  | zero => rfl
  | succ k ih =>
    show (em >>> (n + k)).shiftRightOne = ((em >>> n) >>> k).shiftRightOne
    rw [ih]

theorem whole_mul_shiftRight (m k : ℕ) : whole (m * 2 ^ k) >>> k = whole m := by
  induction k generalizing m with
  | zero => simp [HShiftRight.hShiftRight, Nat.repeat]
  | succ k ih =>
    have hdouble : m * 2 ^ (k + 1) = m * 2 * 2 ^ k := by ring
    show (whole (m * 2 ^ (k + 1)) >>> k).shiftRightOne = whole m
    rw [hdouble, ih]
    simp [whole, ExtendedMantissa.shiftRightOne]

/-- An integer divided by a power of two, rounded to the nearest integer. -/
def nearest (m n : ℕ) : ℕ :=
  (whole m >>> n).roundedMantissa

theorem nearest_mono {m m' : ℕ} (h : m ≤ m') (n : ℕ) : nearest m n ≤ nearest m' n := by
  refine roundedMantissa_mono (code_shiftRight_mono ?_ n)
  simpa [code, whole] using h

theorem nearest_mul (m n k : ℕ) : nearest (m * 2 ^ k) (k + n) = nearest m n := by
  rw [nearest, shiftRight_add, whole_mul_shiftRight, nearest]

theorem nearest_bounds (m n : ℕ) : m / 2 ^ n ≤ nearest m n ∧ nearest m n ≤ m / 2 ^ n + 1 := by
  have h := roundedMantissa_bounds (whole m >>> n)
  rwa [mantissa_shiftRight] at h
/-! ## Rounding -/

/-- The exponent of the float nearest to `m * 2 ^ e`, before a carry. -/
def target (m : ℕ) (e : ℤ) : ℤ :=
  max (m.log2 + e - 52) (-1074)

/-- The place of the float nearest to `m * 2 ^ e`. A mantissa that is carried over makes the same
number as the next exponent, so a carry needs no case of its own. -/
def spot (m : ℕ) (e : ℤ) : ℤ :=
  (target m e + 1074) * 2 ^ 52 + nearest m (target m e - e).toNat

theorem targetExponent_eq (m : ℕ) (e : ℤ) :
    Format.binary64.targetExponent (totalExponent m e) = target m e := by
  simp only [Format.targetExponent, totalExponent, Format.mantissaBits, Format.minExponent, target]
  norm_num
  omega

theorem shiftToTargetExponent_eq (m : ℕ) (e : ℤ) :
    shiftToTargetExponent .binary64 m e .exact =
      (whole m >>> (target m e - e).toNat, e + (target m e - e).toNat) := by
  rw [shiftToTargetExponent, targetExponent_eq]
  rfl

theorem nearest_le {m n : ℕ} (h : m.log2 ≤ 52 + n) : nearest m n ≤ 2 ^ 53 := by
  have hfloor : m / 2 ^ n < 2 ^ 53 := by
    rw [Nat.div_lt_iff_lt_mul (Nat.two_pow_pos n), ← Nat.pow_add]
    exact lt_of_lt_of_le Nat.lt_log2_self (Nat.pow_le_pow_right (by decide) (by omega))
  have hbounds := nearest_bounds m n
  omega

theorem le_nearest {m n : ℕ} (h : m.log2 = 52 + n) : 2 ^ 52 ≤ nearest m n := by
  have hm : m ≠ 0 := by
    rintro rfl
    simp at h
    omega
  have hfloor : 2 ^ 52 ≤ m / 2 ^ n := by
    rw [Nat.le_div_iff_mul_le (Nat.two_pow_pos n), ← Nat.pow_add, ← h]
    exact Nat.log2_self_le hm
  exact le_trans hfloor (nearest_bounds m n).1

/-- The mantissa of a result, before a carry. -/
theorem nearest_target_bounds {m : ℕ} {e : ℤ} (h : e ≤ target m e) :
    nearest m (target m e - e).toNat ≤ 2 ^ 53 ∧
      (2 ^ 52 ≤ nearest m (target m e - e).toNat ∨ target m e = -1074) := by
  refine ⟨nearest_le ?_, ?_⟩
  · unfold target at h ⊢
    omega
  · by_cases hleast : target m e = -1074
    · exact .inr hleast
    · refine .inl (le_nearest ?_)
      unfold target at h hleast ⊢
      omega

/-- A mantissa that takes up too much room is carried over, and nothing else changes. -/
theorem exists_carry {r : ℕ} {t : ℤ} (hroom : r ≤ 2 ^ 53) (hleast : -1074 ≤ t)
    (hfull : 2 ^ 52 ≤ r ∨ t = -1074) :
    ∃ m e, shiftToTargetExponent .binary64 r t .exact = (whole m, e) ∧ Fits m e ∧
      (e + 1074) * 2 ^ 52 + m = (t + 1074) * 2 ^ 52 + r := by
  rw [shiftToTargetExponent_eq]
  rcases Nat.lt_or_ge r (2 ^ 53) with hsmall | hlarge
  · -- There is room: nothing is shifted.
    have hlog : r.log2 ≤ 52 := by
      rcases Nat.eq_zero_or_pos r with rfl | hpos
      · simp
      · exact Nat.le_of_lt_succ ((Nat.log2_lt (Nat.pos_iff_ne_zero.mp hpos)).mpr hsmall)
    have hshift : (target r t - t).toNat = 0 := by
      unfold target
      omega
    rw [hshift]
    exact ⟨r, t + (0 : ℕ), rfl, ⟨hsmall, by omega, by omega⟩, by omega⟩
  · -- Only the power of two itself is too large, and half of it has all its digits.
    have hr : r = 2 ^ 53 := le_antisymm hroom hlarge
    have hshift : (target r t - t).toNat = 1 := by
      rw [hr, target, Nat.log2_two_pow]
      omega
    rw [hshift, hr]
    exact ⟨2 ^ 52, t + (1 : ℕ), rfl, ⟨by omega, by omega, .inl le_rfl⟩, by omega⟩

/-- **Rounding goes to the nearest place.** -/
theorem place_roundWithAccuracy (s : Sign) {m : ℕ} {e : ℤ} (h : e ≤ target m e) :
    Lands (roundWithAccuracy .binary64 s m e .exact) (s.apply (spot m e)) := by
  obtain ⟨hroom, hfull⟩ := nearest_target_bounds h
  have hexponent : e + ((target m e - e).toNat : ℤ) = target m e := by omega
  have hleast : -1074 ≤ e + ((target m e - e).toNat : ℤ) := by
    rw [hexponent]
    exact le_max_right _ _
  obtain ⟨m', e', hcarry, hfits, hplace⟩ := exists_carry hroom hleast (by rwa [hexponent])
  rw [hexponent] at hplace
  rw [nearest] at hcarry
  have hresult : roundWithAccuracy .binary64 s m e .exact =
      if h : m' = 0 then .zero s else .finite s m' e' (Nat.pos_of_ne_zero h) := by
    simp only [roundWithAccuracy, shiftToTargetExponent_eq m e, hcarry]
    rfl
  rw [hresult]
  unfold spot
  split
  · -- Nothing is left but the sign, which has no say in the place of zero.
    rename_i hzero
    have hnothing : (target m e + 1074) * 2 ^ 52 + (nearest m (target m e - e).toNat : ℤ) = 0 := by
      obtain ⟨-, -, hfull⟩ := hfits
      omega
    refine ⟨trivial, rfl, ?_⟩
    rw [hnothing]
    cases s <;> rfl
  · exact ⟨hfits, rfl, congrArg s.apply hplace⟩

/-- Rounding keeps the order of what is rounded. -/
theorem spot_mono {m m' : ℕ} {e : ℤ} (he : e ≤ -1074) (h : m ≤ m') : spot m e ≤ spot m' e := by
  have hfine : ∀ n, e ≤ target n e := fun n => le_trans he (le_max_right _ _)
  have hlog : m.log2 ≤ m'.log2 := by
    rcases Nat.eq_zero_or_pos m with rfl | hpos
    · simp
    · exact (Nat.le_log2 (by omega)).mpr
        (le_trans (Nat.log2_self_le (Nat.pos_iff_ne_zero.mp hpos)) h)
  have htarget : target m e ≤ target m' e := by
    unfold target
    omega
  obtain ⟨hroom, -⟩ := nearest_target_bounds (hfine m)
  obtain ⟨-, hfull⟩ := nearest_target_bounds (hfine m')
  unfold spot
  rcases htarget.lt_or_eq with hlt | heq
  · -- The larger number needs a larger exponent, so its mantissa is full.
    have hleast : -1074 ≤ target m e := le_max_right _ _
    have hfull : 2 ^ 52 ≤ nearest m' (target m' e - e).toNat := by omega
    omega
  · have hnearest := nearest_mono h (target m e - e).toNat
    rw [← heq]
    omega

theorem target_mul {m : ℕ} (hm : m ≠ 0) (e : ℤ) (k : ℕ) :
    target (m * 2 ^ k) (e - k) = target m e := by
  have hlog : (m * 2 ^ k).log2 = m.log2 + k := by
    have hpos : 0 < 2 ^ k := Nat.two_pow_pos k
    rw [Nat.log2_eq_iff (Nat.mul_ne_zero hm hpos.ne'), Nat.add_right_comm, Nat.pow_add, Nat.pow_add]
    exact ⟨Nat.mul_le_mul_right _ (Nat.log2_self_le hm),
      Nat.mul_lt_mul_of_pos_right Nat.lt_log2_self hpos⟩
  rw [target, hlog, target]
  omega

/-- A number that is written with more digits is rounded alike. -/
theorem spot_mul {m : ℕ} {e : ℤ} (hm : m ≠ 0) (h : e ≤ target m e) (k : ℕ) :
    spot (m * 2 ^ k) (e - k) = spot m e := by
  have htarget := target_mul hm e k
  have hshift : (target m e - (e - k)).toNat = k + (target m e - e).toNat := by omega
  rw [spot, htarget, hshift, nearest_mul, spot]

theorem spot_zero {e : ℤ} (he : e ≤ -1074) : spot 0 e = 0 := by
  have htarget : target 0 e = -1074 := by
    rw [target, Nat.log2_zero]
    omega
  have hnearest : nearest 0 (target 0 e - e).toNat = 0 := by
    have h := whole_mul_shiftRight 0 (target 0 e - e).toNat
    rw [Nat.zero_mul] at h
    rw [nearest, h]
    rfl
  rw [spot, hnearest, htarget]
  rfl

/-- What fits is its own nearest float. -/
theorem spot_of_fits {m : ℕ} {e : ℤ} (hm : 0 < m) (h : Fits m e) :
    target m e = e ∧ spot m e = (e + 1074) * 2 ^ 52 + m := by
  obtain ⟨hroom, hleast, hfull⟩ := h
  have htarget : target m e = e := by
    have hlog : m.log2 < 53 := (Nat.log2_lt hm.ne').mpr hroom
    unfold target
    rcases hfull with hfull | rfl
    · have hlog' : 52 ≤ m.log2 := (Nat.le_log2 hm.ne').mpr hfull
      omega
    · omega
  refine ⟨htarget, ?_⟩
  rw [spot, htarget, Int.sub_self]
  rfl

/-! ## Values -/

/-- The value of a finite float, counted in the least float above zero. -/
def ticks : UnpackedFloat → ℤ
  | .finite s m e _ => s.apply (m * 2 ^ (e + 1074).toNat)
  | _ => 0

/-- The place of the float nearest to `n * 2 ^ e`. -/
def signedSpot (n e : ℤ) : ℤ :=
  if 0 ≤ n then spot n.toNat e else -spot (-n).toNat e

theorem signedSpot_mono {n n' e : ℤ} (he : e ≤ -1074) (h : n ≤ n') :
    signedSpot n e ≤ signedSpot n' e := by
  have hpos : ∀ m, 0 ≤ spot m e := fun m => by
    rw [← spot_zero he]
    exact spot_mono he (Nat.zero_le m)
  unfold signedSpot
  by_cases hn : 0 ≤ n
  · rw [if_pos hn, if_pos (le_trans hn h)]
    exact spot_mono he (by omega)
  · rw [if_neg hn]
    by_cases hn' : 0 ≤ n'
    · rw [if_pos hn']
      exact le_trans (neg_nonpos.mpr (hpos _)) (hpos _)
    · rw [if_neg hn']
      exact neg_le_neg (spot_mono he (by omega))

theorem signedSpot_apply (s : Sign) (m : ℕ) {e : ℤ} (he : e ≤ -1074) :
    signedSpot (s.apply m) e = s.apply (spot m e) := by
  cases s
  · rcases Nat.eq_zero_or_pos m with rfl | hm
    · simp [signedSpot, Sign.apply, spot_zero he]
    · have hneg : ¬ 0 ≤ -(m : ℤ) := by omega
      rw [Sign.apply, signedSpot, if_neg hneg, Int.neg_neg, Int.toNat_natCast]
      rfl
  · simp [signedSpot, Sign.apply]

/-- A number that is not below the least exponent, counted in ticks. -/
theorem spot_eq_spot_ticks {m : ℕ} {e : ℤ} (hm : m ≠ 0) (he : -1074 ≤ e) (h : e ≤ target m e) :
    spot m e = spot (m * 2 ^ (e + 1074).toNat) (-1074) := by
  have hexponent : e - ((e + 1074).toNat : ℤ) = -1074 := by omega
  rw [← spot_mul hm h (e + 1074).toNat, hexponent]

theorem place_eq_signedSpot_ticks {u : UnpackedFloat} (h : Canonical u)
    (hfinite : u.isFinite = true) : place u = signedSpot (ticks u) (-1074) := by
  rcases u with _ | _ | _ | ⟨s, m, e, hm⟩
  case infinity | notANumber => cases hfinite
  case zero => exact (spot_zero le_rfl).symm
  case finite =>
    obtain ⟨htarget, hspot⟩ := spot_of_fits hm h.1
    have hticks := spot_eq_spot_ticks hm.ne' h.1.2.1 htarget.ge
    have hcast : (m : ℤ) * 2 ^ (e + 1074).toNat = ((m * 2 ^ (e + 1074).toNat : ℕ) : ℤ) := by
      push_cast
      rfl
    rw [place, ticks, hcast, signedSpot_apply s _ le_rfl, ← hticks, hspot]

/-- Finite floats in one place have one value. -/
theorem ticks_eq_of_place_eq {u v : UnpackedFloat} (hu : Canonical u) (hv : Canonical v)
    (hfu : u.isFinite = true) (hfv : v.isFinite = true) (h : place u = place v) :
    ticks u = ticks v := by
  rcases u with _ | _ | _ | ⟨_ | _, m, e, hm⟩
  case infinity | notANumber => cases hfu
  all_goals
    rcases v with _ | _ | _ | ⟨_ | _, m', e', hm'⟩
    case infinity | notANumber => cases hfv
    all_goals simp only [place, Sign.apply, Canonical, Fits] at hu hv h
  case zero.zero => rfl
  case negative.finite.negative | positive.finite.positive =>
    have he : e = e' := by omega
    have hmantissa : m = m' := by omega
    rw [ticks, ticks, he, hmantissa]
  all_goals omega

theorem ticks_mono {u v : UnpackedFloat} (hu : Canonical u) (hv : Canonical v)
    (hfu : u.isFinite = true) (hfv : v.isFinite = true) (h : place u ≤ place v) :
    ticks u ≤ ticks v := by
  -- Were the values the other way round, so would be the places, and then both would be one.
  by_contra hlt
  have hback : place v ≤ place u := by
    rw [place_eq_signedSpot_ticks hu hfu, place_eq_signedSpot_ticks hv hfv]
    exact signedSpot_mono le_rfl (le_of_not_ge hlt)
  exact hlt (ticks_eq_of_place_eq hu hv hfu hfv (le_antisymm h hback)).le

end Helpdesk.Score
