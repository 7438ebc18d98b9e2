import Helpdesk.Proofs.Score

/-!
# Helpdesk.Proofs.Score.Grid — the places of floats.

Read without its sign, the bits of a float are a number, and from zero up to infinity floats are
ordered as these numbers are. With the sign put back, each float has a place among the integers:
next floats are in next places, both zeros are in one, and infinity comes after the last finite
float.

Only one pair of mantissa and exponent with a given value is ever read from bits, the one with the
least exponent for which there is room. A result that was rounded to such a pair is packed into its
place, or into infinity when the place is too far out.
-/
namespace Helpdesk.Score

open Float.Model Float.Model.UnpackedFloat

/-! ## Places -/

/-- The place of infinity. -/
def lastPlace : ℤ :=
  2047 * 2 ^ 52

/-- The floats from zero up are numbered in their order, and those below zero backwards. -/
def place : UnpackedFloat → ℤ
  | .infinity s => s.apply lastPlace
  | .notANumber => 0
  | .zero _ => 0
  | .finite s m e _ => s.apply ((e + 1074) * 2 ^ 52 + m)

/-- The mantissa and the exponent fit together: of all the exponents that go with the value it is
the least one for which there is room. -/
def Fits (m : ℕ) (e : ℤ) : Prop :=
  m < 2 ^ 53 ∧ -1074 ≤ e ∧ (2 ^ 52 ≤ m ∨ e = -1074)

/-- An unpacked float that was read from bits. -/
def Canonical : UnpackedFloat → Prop
  | .finite _ m e _ => Fits m e ∧ e ≤ 971
  | _ => True

theorem toNat_one_append {n : ℕ} (m : BitVec n) : (1#1 ++ m).toNat = 2 ^ n + m.toNat := by
  rw [BitVec.toNat_append, ← Nat.shiftLeft_add_eq_or_of_lt m.isLt, Nat.shiftLeft_eq]
  simp

/-- The place of what is read from bits is the number that the bits are, with their sign. -/
theorem place_unpack {b : BitVec Format.binary64.numBits}
    (h : (unpack .binary64 b).isNaN = false) :
    place (unpack .binary64 b) = (Sign.ofBitVec (unpackSign b)).apply
      ((unpackExponent b).toNat * 2 ^ 52 + (unpackMantissa b).toNat) := by
  have hlast : (-1#11).toNat = 2047 := rfl
  simp only [UnpackedFloat.unpack] at h ⊢
  split at h
  · rename_i hexponent
    split at h
    · rename_i hmantissa
      rw [if_pos hexponent, if_pos hmantissa, hexponent, hmantissa]
      rfl
    · cases h
  · rename_i hexponent
    rw [if_neg hexponent]
    split at h
    · rename_i hzero
      rw [if_pos hzero, hzero]
      split
      · rename_i hmantissa
        rw [hmantissa]
        cases Sign.ofBitVec (unpackSign b) <;> simp [place, Sign.apply]
      · show (Sign.ofBitVec (unpackSign b)).apply _ = _
        congr 1
    · rename_i hzero
      rw [if_neg hzero]
      show (Sign.ofBitVec (unpackSign b)).apply _ = _
      congr 1
      rw [toNat_one_append]
      push_cast
      simp [Format.exponentBias]
      ring

theorem canonical_unpack (b : BitVec Format.binary64.numBits) : Canonical (unpack .binary64 b) := by
  have hwhole : (1#1 ++ unpackMantissa b).toNat = 2 ^ 52 + (unpackMantissa b).toNat :=
    toNat_one_append _
  have hmantissa : (unpackMantissa b).toNat < 2 ^ 52 := (unpackMantissa b).isLt
  have hexponent : (unpackExponent b).toNat < 2 ^ 11 := (unpackExponent b).isLt
  simp only [UnpackedFloat.unpack]
  split
  · split <;> exact trivial
  · rename_i hlast
    have hlast : (unpackExponent b).toNat ≠ 2047 := fun h => hlast (BitVec.eq_of_toNat_eq h)
    split
    · rename_i hzero
      split
      · exact trivial
      · rw [hzero]
        refine ⟨⟨by omega, ?_, Or.inr ?_⟩, ?_⟩ <;> simp [Format.exponentBias]
    · rename_i hzero
      have hzero : (unpackExponent b).toNat ≠ 0 := fun h => hzero (BitVec.eq_of_toNat_eq h)
      refine ⟨⟨?_, ?_, Or.inl ?_⟩, ?_⟩
      · omega
      · simp [Format.exponentBias]
        omega
      · omega
      · simp [Format.exponentBias]
        omega

theorem level_le_iff {u v : UnpackedFloat} (hu : Canonical u) (hv : Canonical v)
    (hnu : u.isNaN = false) (hnv : v.isNaN = false) : level u ≤ level v ↔ place u ≤ place v := by
  rcases u with (_ | _) | _ | _ | ⟨_ | _, m, e, hm⟩ <;>
    rcases v with (_ | _) | _ | _ | ⟨_ | _, m', e', hm'⟩
  all_goals first
    | exact absurd hnu (by decide)
    | exact absurd hnv (by decide)
    | simp [level, place, Sign.apply, lastPlace, Prod.Lex.toLex_le_toLex, Canonical, Fits]
        at hu hv ⊢ <;> omega

theorem place_bounds {u : UnpackedFloat} (h : Canonical u) :
    -lastPlace ≤ place u ∧ place u ≤ lastPlace := by
  rcases u with (_ | _) | _ | _ | ⟨_ | _, m, e, hm⟩ <;>
    simp only [place, Sign.apply, lastPlace, Canonical, Fits] at h ⊢ <;> omega

theorem isFinite_iff {u : UnpackedFloat} (h : Canonical u) (hnumber : u.isNaN = false) :
    u.isFinite = true ↔ -lastPlace < place u ∧ place u < lastPlace := by
  rcases u with (_ | _) | _ | _ | ⟨_ | _, m, e, hm⟩
  case notANumber => cases hnumber
  all_goals
    simp only [UnpackedFloat.isFinite, place, Sign.apply, lastPlace, Canonical, Fits] at h ⊢
    simp
    try omega

theorem eq_infinity_of_place {u : UnpackedFloat} (h : Canonical u) (s : Sign)
    (hplace : place u = s.apply lastPlace) : u = .infinity s := by
  rcases u with s' | _ | s' | ⟨s', m, e, hm⟩
  case infinity => cases s <;> cases s' <;> first | rfl | exact absurd hplace (by decide)
  case notANumber => cases s <;> exact absurd hplace (by decide)
  case zero => cases s <;> cases s' <;> exact absurd hplace (by decide)
  case finite =>
    cases s <;> cases s' <;>
      simp only [place, Sign.apply, lastPlace, Canonical, Fits] at h hplace <;> omega

/-! ## Packing -/

/-- A place outside the grid counts as infinity. -/
def clamp (n : ℤ) : ℤ :=
  max (-lastPlace) (min lastPlace n)

theorem clamp_mono {n n' : ℤ} (h : n ≤ n') : clamp n ≤ clamp n' :=
  max_le_max_left _ (min_le_min_left _ h)

theorem clamp_apply (s : Sign) (n : ℤ) : clamp (s.apply n) = s.apply (clamp n) := by
  cases s
  · simp only [clamp, lastPlace, Sign.apply]
    omega
  · rfl

/-- What was packed from its parts is unpacked as their number. -/
theorem place_unpack_packComponents (s : Sign) (exponent : BitVec 11) (mantissa : BitVec 52)
    (h : exponent ≠ -1#11 ∨ mantissa = 0#52) :
    (unpack .binary64 (packComponents .binary64 s exponent mantissa)).isNaN = false ∧
      place (unpack .binary64 (packComponents .binary64 s exponent mantissa)) =
        s.apply (exponent.toNat * 2 ^ 52 + mantissa.toNat) := by
  have hnumber :
      (unpack .binary64 (packComponents .binary64 s exponent mantissa)).isNaN = false := by
    simp only [UnpackedFloat.unpack, unpackExponent_packComponents, unpackMantissa_packComponents]
    rcases h with h | h
    · rw [if_neg h]
      split
      · split <;> rfl
      · rfl
    · rw [if_pos h]
      split
      · rfl
      · split <;> rfl
  -- What remains is that each part is read back as it was written.
  refine ⟨hnumber, ?_⟩
  rw [place_unpack hnumber, unpackSign_packComponents, unpackExponent_packComponents,
    unpackMantissa_packComponents]
  cases s <;> rfl

theorem place_unpack_packedInfinity (s : Sign) :
    (unpack .binary64 (packedInfinity .binary64 s)).isNaN = false ∧
      place (unpack .binary64 (packedInfinity .binary64 s)) = s.apply lastPlace := by
  have hlast : (-1#11).toNat = 2047 := rfl
  have hparts := place_unpack_packComponents s (-1#11) 0#52 (.inr rfl)
  rw [hlast] at hparts
  exact hparts

/-- A result whose mantissa and exponent fit together; its exponent may still be too large. -/
def Rounded : UnpackedFloat → Prop
  | .finite _ m e _ => Fits m e
  | _ => True

/-- A result that was rounded to a place. -/
structure Lands (u : UnpackedFloat) (n : ℤ) : Prop where
  rounded : Rounded u
  number : u.isNaN = false
  place_eq : place u = n

/-- A mantissa with all its digits: the first one is left out, and the exponent says that it is
there. -/
theorem place_unpack_full (s : Sign) {m : ℕ} {e : ℤ} (hfull : 2 ^ 52 ≤ m) (hroom : m < 2 ^ 53)
    (hleast : -1074 ≤ e) (hlarge : e ≤ 971) :
    (unpack .binary64 (packComponents .binary64 s (BitVec.ofNat 11 (e + 1075).toNat)
      (BitVec.ofNat 52 m))).isNaN = false ∧
    place (unpack .binary64 (packComponents .binary64 s (BitVec.ofNat 11 (e + 1075).toNat)
      (BitVec.ofNat 52 m))) = s.apply ((e + 1074) * 2 ^ 52 + m) := by
  have hexponent : (BitVec.ofNat 11 (e + 1075).toNat).toNat = (e + 1075).toNat := by
    rw [BitVec.toNat_ofNat, Nat.mod_eq_of_lt (by omega)]
  have hmantissa : (BitVec.ofNat 52 m).toNat = m - 2 ^ 52 := by
    rw [BitVec.toNat_ofNat]
    omega
  have hnotLast : BitVec.ofNat 11 (e + 1075).toNat ≠ -1#11 := by
    intro hlast
    have hlast : (e + 1075).toNat = 2047 := hexponent.symm.trans (congrArg BitVec.toNat hlast)
    omega
  obtain ⟨hnumber, hplace⟩ := place_unpack_packComponents s _ (BitVec.ofNat 52 m) (.inl hnotLast)
  refine ⟨hnumber, hplace.trans (congrArg s.apply ?_)⟩
  rw [hexponent, hmantissa]
  omega

/-- A mantissa that misses some digits goes with the least exponent, which is written as none. -/
theorem place_unpack_small (s : Sign) {m : ℕ} (hsmall : m < 2 ^ 52) :
    (unpack .binary64 (packComponents .binary64 s 0#11 (BitVec.ofNat 52 m))).isNaN = false ∧
    place (unpack .binary64 (packComponents .binary64 s 0#11 (BitVec.ofNat 52 m))) = s.apply m := by
  have hmantissa : (BitVec.ofNat 52 m).toNat = m := by
    rw [BitVec.toNat_ofNat, Nat.mod_eq_of_lt hsmall]
  obtain ⟨hnumber, hplace⟩ :=
    place_unpack_packComponents s 0#11 (BitVec.ofNat 52 m) (.inl (by decide))
  refine ⟨hnumber, hplace.trans (congrArg s.apply ?_)⟩
  rw [hmantissa]
  simp

/-- A finite result is packed into its place unless its exponent is too large. -/
theorem place_unpack_pack_finite (s : Sign) {m : ℕ} {e : ℤ} (hm : 0 < m) (h : Fits m e) :
    (unpack .binary64 (pack .binary64 (.finite s m e hm))).isNaN = false ∧
      place (unpack .binary64 (pack .binary64 (.finite s m e hm))) =
        s.apply (clamp ((e + 1074) * 2 ^ 52 + m)) := by
  obtain ⟨hroom, hleast, hfits⟩ := h
  have hne : m ≠ 0 := Nat.pos_iff_ne_zero.mp hm
  have hlog : m.log2 < 53 := (Nat.log2_lt hne).mpr hroom
  have hbiased : e + Format.binary64.exponentBias + Format.binary64.mantissaBitsWithoutImplicit =
      e + 1075 := by
    simp [Format.exponentBias]
    ring
  simp only [UnpackedFloat.pack, hbiased]
  split
  · rename_i hlarge
    obtain ⟨hnumber, hplace⟩ := place_unpack_packedInfinity s
    refine ⟨hnumber, hplace.trans (congrArg s.apply ?_)⟩
    simp only [clamp, lastPlace]
    omega
  · rename_i hlarge
    have hlarge : e ≤ 971 := by
      simp at hlarge
      omega
    -- The place is on the grid, so only the two ways of writing a mantissa are left.
    have hclamp : clamp ((e + 1074) * 2 ^ 52 + m) = (e + 1074) * 2 ^ 52 + m := by
      simp only [clamp, lastPlace]
      omega
    rw [hclamp]
    split
    · rename_i hdigits
      have hfull : 2 ^ 52 ≤ m := by
        apply (Nat.le_log2 hne).mp
        simp [Format.mantissaBits] at hdigits
        omega
      exact place_unpack_full s hfull hroom hleast hlarge
    · rename_i hdigits
      have hsmall : m < 2 ^ 52 := by
        apply (Nat.log2_lt hne).mp
        simp [Format.mantissaBits] at hdigits
        omega
      have hexponent : e = -1074 := by omega
      obtain ⟨hnumber, hplace⟩ := place_unpack_small s hsmall
      refine ⟨hnumber, hplace.trans (congrArg s.apply ?_)⟩
      omega

/-- Packing moves what is too large to infinity and leaves all else in its place. -/
theorem place_unpack_pack {u : UnpackedFloat} (h : Rounded u) (hnumber : u.isNaN = false) :
    (unpack .binary64 (pack .binary64 u)).isNaN = false ∧
      place (unpack .binary64 (pack .binary64 u)) = clamp (place u) := by
  rcases u with s | _ | s | ⟨s, m, e, hm⟩
  case infinity =>
    obtain ⟨hinfinity, hplace⟩ := place_unpack_packedInfinity s
    refine ⟨hinfinity, ?_⟩
    rw [UnpackedFloat.pack, hplace, place, clamp_apply]
    rfl
  case notANumber => cases hnumber
  case zero =>
    obtain ⟨hzero, hplace⟩ := place_unpack_packComponents s 0#11 0#52 (.inr rfl)
    refine ⟨hzero, hplace.trans ?_⟩
    cases s <;> simp [place, Sign.apply, clamp, lastPlace]
  case finite =>
    rw [place, clamp_apply]
    exact place_unpack_pack_finite s hm h

/-- Packing never makes a number of what is none. -/
theorem isNaN_of_unpack_pack {u : UnpackedFloat}
    (h : (UnpackedFloat.unpack .binary64 (UnpackedFloat.pack .binary64 u)).isNaN = false) :
    u.isNaN = false := by
  rcases u with _ | _ | _ | _
  case notANumber => exact absurd h (by decide)
  all_goals rfl

theorem clamp_place {u : UnpackedFloat} (h : Canonical u) : clamp (place u) = place u := by
  obtain ⟨hlow, hhigh⟩ := place_bounds h
  rw [clamp, min_eq_right hhigh, max_eq_right hlow]

/-! ## Floats -/

/-- The place of a float. -/
def placeOf (x : Float) : ℤ :=
  place x.toModel.unpack

theorem canonical_toModel (x : Float) : Canonical x.toModel.unpack :=
  canonical_unpack _

theorem levelOf_le_iff {x y : Float} (hx : x.isNaN = false) (hy : y.isNaN = false) :
    levelOf x ≤ levelOf y ↔ placeOf x ≤ placeOf y :=
  level_le_iff (canonical_toModel x) (canonical_toModel y) hx hy

theorem le_iff {x y : Float} (hx : x.isNaN = false) (hy : y.isNaN = false) :
    x ≤ y ↔ levelOf x ≤ levelOf y := by
  have hany : ∀ o : Option Ordering, o.any (·.isLE) = true ↔ o = some .lt ∨ o = some .eq := by
    rintro (_ | _ | _ | _) <;> decide
  rw [le_iff_lt_or_eq, levelOf, levelOf, ← compare_eq_lt_iff hx hy, ← compare_eq_eq_iff hx hy,
    ← hany]
  show decide (_ = true) = true ↔ _
  rw [decide_eq_true_iff]
  rfl

end Helpdesk.Score
