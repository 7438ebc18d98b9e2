import Mathlib

/-!
# Helpdesk.Proofs.Score — floats as scores.

Floats that are numbers are ordered like the triples of their class, exponent and mantissa, so a
comparison of floats can be replaced by a comparison in a linear order. Two floats in one place are
the same float or two zeros. The zeros differ in their sign, and the sign is lost as soon as
something without a minus sign is added.
-/
namespace Helpdesk.Score

open Float.Model Float.Model.UnpackedFloat

/-! ## The order of floats -/

/-- Where an unpacked float stands: its class and sign, then its exponent, then its mantissa. -/
def level : UnpackedFloat → ℤ ×ₗ ℤ ×ₗ ℤ
  | .infinity .negative => toLex (-2, toLex (0, 0))
  | .finite .negative m e _ => toLex (-1, toLex (-e, -(m : ℤ)))
  | .notANumber => toLex (0, toLex (0, 0))
  | .zero _ => toLex (0, toLex (0, 0))
  | .finite .positive m e _ => toLex (1, toLex (e, (m : ℤ)))
  | .infinity .positive => toLex (2, toLex (0, 0))

/-- Floats are compared by their levels. -/
theorem compare_eq_lt_iff {u v : UnpackedFloat} (hu : u.isNaN = false) (hv : v.isNaN = false) :
    u.compare v = some .lt ↔ level u < level v := by
  have hsigns : compare Sign.negative Sign.positive = .lt := rfl
  have hcomm : ∀ e e' : ℤ, e' = e ↔ e = e' := fun e e' => eq_comm
  -- One case for each pair of classes and signs; below zero exponents and mantissas count backwards.
  rcases u with (_ | _) | _ | _ | ⟨_ | _, m, e, hm⟩ <;>
    rcases v with (_ | _) | _ | _ | ⟨_ | _, m', e', hm'⟩
  all_goals first
    | exact absurd hu (by decide)
    | exact absurd hv (by decide)
    | simp [UnpackedFloat.compare, level, Prod.Lex.toLex_lt_toLex, Ordering.then_eq_lt,
        Ordering.then_eq_gt, compare_lt_iff_lt, compare_gt_iff_gt, hsigns, hcomm]

theorem compare_eq_eq_iff {u v : UnpackedFloat} (hu : u.isNaN = false) (hv : v.isNaN = false) :
    u.compare v = some .eq ↔ level u = level v := by
  have hsigns : compare Sign.negative Sign.positive = .lt := rfl
  have hsame : ∀ s : Sign, compare s s = .eq := fun s => by cases s <;> rfl
  rcases u with (_ | _) | _ | _ | ⟨_ | _, m, e, hm⟩ <;>
    rcases v with (_ | _) | _ | _ | ⟨_ | _, m', e', hm'⟩
  all_goals first
    | exact absurd hu (by decide)
    | exact absurd hv (by decide)
    | simp [UnpackedFloat.compare, level, Ordering.then_eq_eq, hsigns, hsame]

/-- Where a float stands; a float that is no number stands nowhere in particular. -/
def levelOf (x : Float) : ℤ ×ₗ ℤ ×ₗ ℤ :=
  level x.toModel.unpack

theorem lt_iff {x y : Float} (hx : x.isNaN = false) (hy : y.isNaN = false) :
    x < y ↔ levelOf x < levelOf y := by
  rw [levelOf, levelOf, ← compare_eq_lt_iff hx hy]
  show decide ((x.toModel.unpack.compare y.toModel.unpack == some .lt) = true) = true ↔ _
  rw [decide_eq_true_iff, beq_iff_eq]

theorem beq_iff {x y : Float} (hx : x.isNaN = false) (hy : y.isNaN = false) :
    (x == y) = true ↔ levelOf x = levelOf y := by
  rw [levelOf, levelOf, ← compare_eq_eq_iff hx hy]
  show (x.toModel.unpack.compare y.toModel.unpack == some .eq) = true ↔ _
  rw [beq_iff_eq]

/-! ## Signs -/

/-- Whether an unpacked float carries no minus sign. -/
def isPlus : UnpackedFloat → Bool
  | .infinity .negative => false
  | .zero .negative => false
  | .finite .negative .. => false
  | _ => true

theorem unpackSign_packComponents (spec : Format) (sign : Sign)
    (exponent : BitVec spec.exponentBits) (mantissa : BitVec spec.mantissaBitsWithoutImplicit) :
    unpackSign (packComponents spec sign exponent mantissa) = sign.toBitVec := by
  apply BitVec.eq_of_getLsbD_eq
  intro i hi
  have hi : i = 0 := by omega
  subst hi
  simp [unpackSign, packComponents, BitVec.getLsbD_append, BitVec.getElem_append]

/-- Packing keeps a plus sign. -/
theorem unpackSign_pack (spec : Format) {u : UnpackedFloat} (h : isPlus u = true) :
    unpackSign (UnpackedFloat.pack spec u) = 0#1 := by
  rcases u with (_ | _) | _ | (_ | _) | ⟨_ | _, m, e, hm⟩
  case infinity.negative | zero.negative | finite.negative => exact absurd h Bool.false_ne_true
  case infinity.positive | zero.positive | notANumber =>
    exact unpackSign_packComponents spec .positive _ _
  case finite.positive =>
    simp only [UnpackedFloat.pack]
    split
    · exact unpackSign_packComponents spec .positive _ _
    · split <;> exact unpackSign_packComponents spec .positive _ _

/-- What is read from bits whose sign is plus is plus. -/
theorem isPlus_unpack {spec : Format} {b : BitVec spec.numBits} (h : unpackSign b = 0#1) :
    isPlus (UnpackedFloat.unpack spec b) = true := by
  have hsign : Sign.ofBitVec (unpackSign b) = .positive := by rw [h]; rfl
  simp only [UnpackedFloat.unpack, hsign]
  split
  · split <;> rfl
  · split
    · split <;> rfl
    · rfl

theorem isPlus_pack {u : UnpackedFloat} (h : isPlus u = true) :
    isPlus (Float.Model.pack u).unpack = true :=
  isPlus_unpack (unpackSign_pack .binary64 h)

theorem isPlus_roundWithAccuracy (spec : Format) (mantissa : Nat) (exponent : ℤ)
    (accuracy : Accuracy) :
    isPlus (roundWithAccuracy spec .positive mantissa exponent accuracy) = true := by
  simp only [roundWithAccuracy]
  split <;> rfl

theorem isPlus_mul (spec : Format) {u v : UnpackedFloat} (hu : isPlus u = true)
    (hv : isPlus v = true) : isPlus (UnpackedFloat.mul spec u v) = true := by
  rcases u with (_ | _) | _ | (_ | _) | ⟨_ | _, m, e, hm⟩ <;>
    rcases v with (_ | _) | _ | (_ | _) | ⟨_ | _, m', e', hm'⟩
  all_goals first
    | exact absurd hu Bool.false_ne_true
    | exact absurd hv Bool.false_ne_true
    | rfl
    | exact isPlus_roundWithAccuracy spec _ _ _

/-- A natural number has no minus sign, nor has its float. -/
theorem isPlus_normalize (spec : Format) (n : ℕ) (exponent : ℤ) :
    isPlus (UnpackedFloat.normalize spec n exponent .positive) = true := by
  simp only [UnpackedFloat.normalize]
  split
  · rename_i h
    exact absurd (compare_lt_iff_lt.mp h) (by omega)
  · rfl
  · exact isPlus_roundWithAccuracy spec _ _ _

/-- The multiplication of floats keeps plus signs. -/
theorem isPlus_toModel_mul {x y : Float} (hx : isPlus x.toModel.unpack = true)
    (hy : isPlus y.toModel.unpack = true) : isPlus (x * y).toModel.unpack = true :=
  isPlus_pack (isPlus_mul _ hx hy)

/-- A natural number times a power of ten has no minus sign. -/
theorem isPlus_ofScientific (spec : Format) (n e : ℕ) :
    isPlus (UnpackedFloat.ofScientific spec n e) = true := by
  unfold UnpackedFloat.ofScientific
  split
  · rfl
  · split
    · rfl
    · split
      · rfl
      · rw [if_pos (Int.natCast_nonneg e)]
        exact isPlus_mul spec rfl rfl

theorem isPlus_ofNat (n : ℕ) : isPlus (Float.ofNat n).toModel.unpack = true := by
  show isPlus (Float.ofScientific n false 0).toModel.unpack = true
  unfold Float.ofScientific
  split
  · -- A number that fits a machine word is taken from it and scaled by one.
    have hone : isPlus (Float.ofBits 0x3FF0000000000000).toModel.unpack = true := by
      decide +kernel
    exact isPlus_toModel_mul (isPlus_pack (isPlus_normalize _ _ _)) hone
  · exact isPlus_pack (isPlus_ofScientific _ n 0)

/-! ## Sums -/

/-- Floats at one level are the same, but for the sign of zero. -/
theorem eq_or_zero_of_level_eq {u v : UnpackedFloat} (hu : u.isNaN = false)
    (hv : v.isNaN = false) (h : level u = level v) :
    u = v ∨ (∃ s, u = .zero s) ∧ ∃ s, v = .zero s := by
  rcases u with (_ | _) | _ | s | ⟨_ | _, m, e, hm⟩ <;>
    rcases v with (_ | _) | _ | s' | ⟨_ | _, m', e', hm'⟩
  case zero.zero => exact .inr ⟨⟨s, rfl⟩, s', rfl⟩
  all_goals first
    | exact absurd hu (by decide)
    | exact absurd hv (by decide)
    | exact .inl rfl
    | simp_all [level]

/-- A zero of either sign adds nothing to a float without a minus sign. -/
theorem zero_add_of_isPlus (spec : Format) {w : UnpackedFloat} (h : isPlus w = true) (s : Sign) :
    UnpackedFloat.add spec (.zero s) w = w := by
  rcases w with (_ | _) | _ | (_ | _) | ⟨_ | _, m, e, hm⟩
  case zero.negative => exact absurd h Bool.false_ne_true
  case zero.positive => cases s <;> rfl
  all_goals rfl

/-- Floats at one level plus a float without a minus sign give the same sum. -/
theorem add_eq_of_levelOf_eq {x y z : Float} (hx : x.isNaN = false) (hy : y.isNaN = false)
    (hz : isPlus z.toModel.unpack = true) (h : levelOf x = levelOf y) : x + z = y + z := by
  have hsum : UnpackedFloat.add .binary64 x.toModel.unpack z.toModel.unpack
      = UnpackedFloat.add .binary64 y.toModel.unpack z.toModel.unpack := by
    obtain heq | ⟨⟨s, hs⟩, s', hs'⟩ := eq_or_zero_of_level_eq hx hy h
    · rw [heq]
    · rw [hs, hs', zero_add_of_isPlus _ hz, zero_add_of_isPlus _ hz]
  exact congrArg (fun u => Float.ofModel (Float.Model.pack u)) hsum

end Helpdesk.Score
