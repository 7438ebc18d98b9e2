import Helpdesk.Decimal.Ratio
import Helpdesk.Proofs.Score.Growth

/-!
# Helpdesk.Proofs.Score.Numbers — operations whose results are numbers.

Packing makes a number of every number, rounded or not, so whether a result is one is settled before
it is packed: by the classes and signs of the operands. Products and quotients by a positive finite
float are numbers, and they have no minus sign when the other operand has none.

The float of a natural number is put together from its bits. The whole part that is rounded has at
most fifty-three of them, so nothing is carried over into the exponent, and what is read from the bits
is a number without a minus sign.
-/
namespace Helpdesk.Score

open Float.Model Float.Model.UnpackedFloat

/-! ## Packing -/

/-- What is packed as components with an exponent below the last one is read as a number. -/
theorem isNaN_unpack_packComponents (s : Sign) {exponent : ℕ} (h : exponent < 2047)
    (mantissa : BitVec 52) :
    (unpack .binary64 (packComponents .binary64 s (BitVec.ofNat 11 exponent) mantissa)).isNaN =
      false := by
  refine (place_unpack_packComponents s _ mantissa (.inl fun hlast => ?_)).1
  have hvalue := congrArg BitVec.toNat hlast
  rw [BitVec.toNat_ofNat, Nat.mod_eq_of_lt (by omega)] at hvalue
  exact absurd hvalue (by simp; omega)

/-- **Packing makes a number of every number and of nothing else.** -/
theorem isNaN_unpack_pack (u : UnpackedFloat) :
    (unpack .binary64 (pack .binary64 u)).isNaN = u.isNaN := by
  rcases u with s | _ | s | ⟨s, m, e, hm⟩
  · exact (place_unpack_pack (u := .infinity s) trivial rfl).1
  · decide
  · exact (place_unpack_pack (u := .zero s) trivial rfl).1
  · simp only [UnpackedFloat.pack]
    split
    · exact (place_unpack_packedInfinity s).1
    · next hroom =>
      split
      · exact isNaN_unpack_packComponents s (by simpa [Format.exponentBias] using hroom) _
      · exact isNaN_unpack_packComponents s (Nat.zero_lt_succ 2046) _

/-! ## Products and quotients -/

/-- A float that is a number without a minus sign. -/
structure Plain (x : Float) : Prop where
  number : x.isNaN = false
  plus : isPlus x.toModel.unpack = true

theorem isNaN_mul_eq (x y : Float) :
    (x * y).isNaN = (UnpackedFloat.mul .binary64 x.toModel.unpack y.toModel.unpack).isNaN :=
  isNaN_unpack_pack _

theorem isNaN_div_eq (x y : Float) :
    (x / y).isNaN = (UnpackedFloat.div .binary64 x.toModel.unpack y.toModel.unpack).isNaN :=
  isNaN_unpack_pack _

theorem isNaN_roundWithAccuracy (spec : Format) (s : Sign) (m : ℕ) (e : ℤ) (accuracy : Accuracy) :
    (roundWithAccuracy spec s m e accuracy).isNaN = false := by
  simp only [roundWithAccuracy]
  split <;> rfl

/-- A positive finite float is neither zero nor infinite. -/
theorem Positive.exists_unpack_eq {y : Float} (hy : Positive y) :
    ∃ m e hm, y.toModel.unpack = .finite .positive m e hm := by
  obtain ⟨hnumber, hplus, hfinite, hpositive⟩ := hy
  have hunpacked : y.toModel.unpack.isFinite = true := hfinite
  unfold placeOf at hpositive
  rcases hu : y.toModel.unpack with (_ | _) | _ | _ | ⟨_ | _, m, e, hm⟩ <;>
    simp_all [UnpackedFloat.isFinite, isPlus, place]

theorem Plain.mul {x y : Float} (hx : Plain x) (hy : Positive y) : Plain (x * y) := by
  refine ⟨?_, isPlus_toModel_mul hx.plus hy.plus⟩
  obtain ⟨m, e, hm, hunpack⟩ := hy.exists_unpack_eq
  have hnumber : x.toModel.unpack.isNaN = false := hx.number
  rw [isNaN_mul_eq, hunpack]
  rcases hu : x.toModel.unpack with _ | _ | _ | _
  case notANumber => rw [hu] at hnumber; cases hnumber
  case finite => exact isNaN_roundWithAccuracy _ _ _ _ _
  all_goals rfl

theorem Plain.div {x y : Float} (hx : Plain x) (hy : Positive y) : Plain (x / y) := by
  obtain ⟨m, e, hm, hunpack⟩ := hy.exists_unpack_eq
  have hnumber : x.toModel.unpack.isNaN = false := hx.number
  have hplus := hx.plus
  have hquotient : (UnpackedFloat.div .binary64 x.toModel.unpack y.toModel.unpack).isNaN = false ∧
      isPlus (UnpackedFloat.div .binary64 x.toModel.unpack y.toModel.unpack) = true := by
    rw [hunpack]
    rcases hu : x.toModel.unpack with (_ | _) | _ | (_ | _) | ⟨_ | _, m', e', hm'⟩
    case notANumber => rw [hu] at hnumber; cases hnumber
    case infinity.negative | zero.negative | finite.negative => rw [hu] at hplus; cases hplus
    case finite.positive =>
      exact ⟨isNaN_roundWithAccuracy _ _ _ _ _, isPlus_roundWithAccuracy _ _ _ _⟩
    all_goals exact ⟨rfl, rfl⟩
  exact ⟨(isNaN_div_eq x y).trans hquotient.1, isPlus_pack hquotient.2⟩

/-- A positive number at its own exponent fills fifty-three bits. -/
theorem scaled_bounds {n : ℕ} (hn : n ≠ 0) :
    2 ^ 52 ≤ n * 2 ^ (-((n.log2 : ℤ) - 52)).toNat / (1 * 2 ^ ((n.log2 : ℤ) - 52).toNat) ∧
      n * 2 ^ (-((n.log2 : ℤ) - 52)).toNat / (1 * 2 ^ ((n.log2 : ℤ) - 52).toNat) < 2 ^ 53 := by
  have hlow : 2 ^ n.log2 ≤ n := Nat.log2_self_le hn
  have hhigh : n < 2 ^ (n.log2 + 1) := Nat.lt_log2_self
  rcases Nat.le_total n.log2 52 with hsmall | hlarge
  · obtain ⟨k, hk⟩ := Nat.exists_eq_add_of_le hsmall
    have hnone : ((n.log2 : ℤ) - 52).toNat = 0 := by omega
    have hshift : (-((n.log2 : ℤ) - 52)).toNat = k := by omega
    rw [hnone, hshift, pow_zero, Nat.mul_one, Nat.div_one, hk, Nat.pow_add,
      show 53 = n.log2 + 1 + k by omega, Nat.pow_add 2 (n.log2 + 1)]
    exact ⟨Nat.mul_le_mul_right _ hlow, Nat.mul_lt_mul_of_pos_right hhigh (Nat.two_pow_pos k)⟩
  · obtain ⟨k, hk⟩ := Nat.exists_eq_add_of_le hlarge
    have hnone : (-((n.log2 : ℤ) - 52)).toNat = 0 := by omega
    have hshift : ((n.log2 : ℤ) - 52).toNat = k := by omega
    rw [hnone, hshift, pow_zero, Nat.mul_one, Nat.one_mul, Nat.le_div_iff_mul_le (Nat.two_pow_pos k),
      Nat.div_lt_iff_lt_mul (Nat.two_pow_pos k), ← Nat.pow_add, ← Nat.pow_add]
    refine ⟨hk ▸ hlow, ?_⟩
    rw [show 53 + k = n.log2 + 1 by omega]
    exact hhigh

theorem ratioExponent_one {n : ℕ} (hn : n ≠ 0) : Decimal.ratioExponent n 1 = (n.log2 : ℤ) - 52 := by
  have hone : ((1 : ℕ).log2 : ℤ) = 0 := by decide
  have hfull := (scaled_bounds hn).1
  simp only [Decimal.ratioExponent, Decimal.scaleRatio, Nat.pow_eq, hone, sub_zero]
  rw [if_neg (not_lt.mpr hfull)]
  omega

/-- A natural number that is not too large has a float. -/
theorem isSome_floatOfInt? {n : ℕ} (h : n.log2 < 1023) : (Decimal.floatOfInt? n).isSome = true := by
  unfold Decimal.floatOfInt? Decimal.nearestToRatio
  rw [Option.isSome_map]
  split
  · rfl
  · next hne =>
    have hn : n ≠ 0 := by
      rintro rfl
      exact hne (.inl rfl)
    simp only [Int.natAbs_natCast, ratioExponent_one hn, Decimal.assemble]
    split_ifs
    all_goals first | rfl | (simp only at *; omega)

end Helpdesk.Score
