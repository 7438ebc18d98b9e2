import Helpdesk.Proofs.Score.Rounding

/-!
# Helpdesk.Proofs.Score.Growth — sums and products grow with their operands.

The sum of finite floats is the float nearest to the sum of their values, and so is the product of
floats without a minus sign, so both grow with each operand. Infinite operands make an infinite
result or one that is no number, and a result that is no number is left out of every statement here.
A natural number becomes the float nearest to it, in two ways: small ones are taken from a machine
word and scaled by one, which leaves them where they are, and large ones are rounded as quotients.
-/
namespace Helpdesk.Score

open Float.Model Float.Model.UnpackedFloat

/-! ## Sums -/

theorem place_round (s : Sign) (m : ℕ) (hm : m ≠ 0) {e : ℤ} (he : -1074 ≤ e) :
    Lands (UnpackedFloat.round .binary64 s m e)
      (s.apply (spot (m * 2 ^ (e + 1074).toNat) (-1074))) := by
  have hleast : -1074 ≤ target m e := le_max_right _ _
  have hround : UnpackedFloat.round .binary64 s m e = roundWithAccuracy .binary64 s
      (m * 2 ^ (e - target m e).toNat) (e - (e - target m e).toNat) .exact := by
    rw [UnpackedFloat.round, targetExponent_eq, decreaseExponent, Nat.shiftLeft_eq]
  generalize hk : (e - target m e).toNat = k at hround
  have hfine : e - (k : ℤ) ≤ target (m * 2 ^ k) (e - k) := by
    rw [target_mul hm]
    omega
  have hpow : (e + 1074).toNat = k + (e - k + 1074).toNat := by omega
  obtain ⟨hrounded, hnumber, hplace⟩ := place_roundWithAccuracy s hfine
  rw [hround]
  refine ⟨hrounded, hnumber, hplace.trans (congrArg s.apply ?_)⟩
  rw [spot_eq_spot_ticks (Nat.mul_ne_zero hm (Nat.two_pow_pos k).ne') (by omega) hfine, hpow,
    Nat.mul_assoc, ← Nat.pow_add]

theorem place_normalize (n : ℤ) {e : ℤ} (he : -1074 ≤ e) (zero : Sign) :
    Lands (UnpackedFloat.normalize .binary64 n e zero)
      (signedSpot (n * 2 ^ (e + 1074).toNat) (-1074)) := by
  have hcast : ∀ m : ℕ, ((m * 2 ^ (e + 1074).toNat : ℕ) : ℤ) = (m : ℤ) * 2 ^ (e + 1074).toNat :=
    fun m => by push_cast; rfl
  rw [UnpackedFloat.normalize]
  split
  · rename_i hneg
    have hneg : n < 0 := compare_lt_iff_lt.mp hneg
    obtain ⟨hrounded, hnumber, hplace⟩ := place_round .negative (-n).toNat (by omega) he
    refine ⟨hrounded, hnumber, hplace.trans ?_⟩
    rw [← signedSpot_apply .negative _ le_rfl, hcast, Int.toNat_of_nonneg (by omega)]
    congr 1
    rw [Sign.apply]
    ring
  · rename_i hzero
    have hzero : n = 0 := compare_eq_iff_eq.mp hzero
    refine ⟨trivial, rfl, ?_⟩
    rw [hzero, Int.zero_mul]
    exact (spot_zero le_rfl).symm
  · rename_i hpos
    have hpos : 0 < n := compare_gt_iff_gt.mp hpos
    obtain ⟨hrounded, hnumber, hplace⟩ := place_round .positive n.toNat (by omega) he
    refine ⟨hrounded, hnumber, hplace.trans ?_⟩
    rw [← signedSpot_apply .positive _ le_rfl, hcast, Int.toNat_of_nonneg (by omega)]
    rfl

/-- The sum of two finite floats goes to the place nearest to it. -/
theorem place_add {u v : UnpackedFloat} (hu : Canonical u) (hv : Canonical v)
    (hfu : u.isFinite = true) (hfv : v.isFinite = true) :
    Lands (UnpackedFloat.add .binary64 u v) (signedSpot (ticks u + ticks v) (-1074)) := by
  rcases u with _ | _ | s | ⟨s, m, e, hm⟩
  case infinity | notANumber => cases hfu
  all_goals
    rcases v with _ | _ | s' | ⟨s', m', e', hm'⟩
    case infinity | notANumber => cases hfv
  case zero.zero =>
    have hzero : (0 : ℤ) = signedSpot (0 + 0) (-1074) := (spot_zero le_rfl).symm
    cases s <;> cases s' <;> exact ⟨trivial, rfl, hzero⟩
  case zero.finite =>
    refine ⟨hv.1, rfl, (place_eq_signedSpot_ticks hv hfv).trans ?_⟩
    rw [show ticks (.zero s) = 0 from rfl, Int.zero_add]
  case finite.zero =>
    refine ⟨hu.1, rfl, (place_eq_signedSpot_ticks hu hfu).trans ?_⟩
    rw [show ticks (.zero s') = 0 from rfl, Int.add_zero]
  case finite.finite =>
    obtain ⟨⟨-, hleast, -⟩, -⟩ := hu
    obtain ⟨⟨-, hleast', -⟩, -⟩ := hv
    have hmin : -1074 ≤ min e e' := le_min hleast hleast'
    obtain ⟨hrounded, hnumber, hplace⟩ := place_normalize
      (s.apply (m <<< (e - min e e').toNat : ℕ) + s'.apply (m' <<< (e' - min e e').toNat : ℕ))
      hmin .positive
    refine ⟨hrounded, hnumber, hplace.trans ?_⟩
    -- Both operands were written with the smaller exponent, which cost them nothing.
    have hticks : ∀ (t : Sign) (n : ℕ) (k : ℤ), min e e' ≤ k →
        t.apply (n <<< (k - min e e').toNat : ℕ) * 2 ^ (min e e' + 1074).toNat =
          t.apply (n * 2 ^ (k + 1074).toNat) := by
      intro t n k hk
      have hpow : (k + 1074).toNat = (k - min e e').toNat + (min e e' + 1074).toNat := by omega
      rw [hpow, Nat.shiftLeft_eq]
      cases t <;> simp only [Sign.apply] <;> push_cast <;> ring
    rw [Int.add_mul, hticks s m e (min_le_left _ _), hticks s' m' e' (min_le_right _ _)]
    rfl

theorem add_eq_infinity {u v : UnpackedFloat} {s : Sign} (h : u = .infinity s ∨ v = .infinity s)
    (hnumber : (UnpackedFloat.add .binary64 u v).isNaN = false) :
    UnpackedFloat.add .binary64 u v = .infinity s := by
  rcases h with rfl | rfl
  · rcases v with s' | _ | s' | ⟨s', m, e, hm⟩
    case notANumber => cases hnumber
    case infinity => cases s <;> cases s' <;> first | rfl | cases hnumber
    all_goals rfl
  · rcases u with s' | _ | s' | ⟨s', m, e, hm⟩
    case notANumber => cases hnumber
    case infinity => cases s <;> cases s' <;> first | rfl | cases hnumber
    all_goals rfl

theorem isNaN_add_eq_false {u v : UnpackedFloat}
    (h : (UnpackedFloat.add .binary64 u v).isNaN = false) : u.isNaN = false ∧ v.isNaN = false := by
  rcases u with _ | _ | _ | _ <;> rcases v with _ | _ | _ | _ <;>
    first | exact ⟨rfl, rfl⟩ | cases h

/-- A sum of numbers, one of them finite, is a number that can be packed. -/
theorem rounded_add {u v : UnpackedFloat} (hu : Canonical u) (hv : Canonical v)
    (hnu : u.isNaN = false) (hnv : v.isNaN = false) (h : u.isFinite = true ∨ v.isFinite = true) :
    Rounded (UnpackedFloat.add .binary64 u v) ∧
      (UnpackedFloat.add .binary64 u v).isNaN = false := by
  by_cases hboth : u.isFinite = true ∧ v.isFinite = true
  · obtain ⟨hrounded, hnumber, -⟩ := place_add hu hv hboth.1 hboth.2
    exact ⟨hrounded, hnumber⟩
  · -- One of the operands is an infinity, and so is the sum.
    obtain ⟨s, hs⟩ : ∃ s, u = .infinity s ∨ v = .infinity s := by
      rcases u with s | _ | _ | _
      case infinity => exact ⟨s, .inl rfl⟩
      case notANumber => cases hnu
      all_goals
        rcases v with s | _ | _ | _
        case infinity => exact ⟨s, .inr rfl⟩
        case notANumber => cases hnv
        all_goals exact absurd ⟨rfl, rfl⟩ hboth
    have hsum : UnpackedFloat.add .binary64 u v = .infinity s := by
      rcases u with _ | _ | _ | _ <;> rcases v with _ | _ | _ | _
      all_goals simp_all [UnpackedFloat.add, UnpackedFloat.isFinite]
    rw [hsum]
    exact ⟨trivial, rfl⟩

/-- **A sum grows with its operands.** -/
theorem place_add_mono {u u' v v' : UnpackedFloat} (hu : Canonical u) (hu' : Canonical u')
    (hv : Canonical v) (hv' : Canonical v') (hle : place u ≤ place u') (hle' : place v ≤ place v')
    (hn : (UnpackedFloat.add .binary64 u v).isNaN = false)
    (hn' : (UnpackedFloat.add .binary64 u' v').isNaN = false) :
    place (unpack .binary64 (pack .binary64 (UnpackedFloat.add .binary64 u v))) ≤
      place (unpack .binary64 (pack .binary64 (UnpackedFloat.add .binary64 u' v'))) := by
  obtain ⟨hnu, hnv⟩ := isNaN_add_eq_false hn
  obtain ⟨hnu', hnv'⟩ := isNaN_add_eq_false hn'
  by_cases hbottom : u = .infinity .negative ∨ v = .infinity .negative
  · rw [add_eq_infinity hbottom hn]
    exact (place_bounds (canonical_unpack _)).1
  by_cases htop : u' = .infinity .positive ∨ v' = .infinity .positive
  · rw [add_eq_infinity htop hn']
    exact (place_bounds (canonical_unpack _)).2
  -- Neither sum is infinite because of an operand, so the operands are between the infinities.
  have hfinite : ∀ {w w' : UnpackedFloat}, Canonical w → Canonical w' → w.isNaN = false →
      w'.isNaN = false → place w ≤ place w' → w ≠ .infinity .negative → w' ≠ .infinity .positive →
      w.isFinite = true ∧ w'.isFinite = true := by
    intro w w' hw hw' hnw hnw' hww' hne hne'
    have hlow : place w ≠ -lastPlace := fun h => hne (eq_infinity_of_place hw .negative h)
    have hhigh : place w' ≠ lastPlace := fun h => hne' (eq_infinity_of_place hw' .positive h)
    have hbounds := place_bounds hw
    have hbounds' := place_bounds hw'
    exact ⟨(isFinite_iff hw hnw).mpr ⟨by omega, by omega⟩,
      (isFinite_iff hw' hnw').mpr ⟨by omega, by omega⟩⟩
  rw [not_or] at hbottom htop
  obtain ⟨hfu, hfu'⟩ := hfinite hu hu' hnu hnu' hle hbottom.1 htop.1
  obtain ⟨hfv, hfv'⟩ := hfinite hv hv' hnv hnv' hle' hbottom.2 htop.2
  obtain ⟨hrounded, -, hplace⟩ := place_add hu hv hfu hfv
  obtain ⟨hrounded', -, hplace'⟩ := place_add hu' hv' hfu' hfv'
  rw [(place_unpack_pack hrounded hn).2, (place_unpack_pack hrounded' hn').2, hplace, hplace']
  refine clamp_mono (signedSpot_mono le_rfl (Int.add_le_add ?_ ?_))
  · exact ticks_mono hu hu' hfu hfu' hle
  · exact ticks_mono hv hv' hfv hfv' hle'

/-! ## Products -/

/-- The product of two finite floats without a minus sign goes to the place nearest to it. -/
theorem place_mul {u v : UnpackedFloat} (hu : Canonical u) (hv : Canonical v)
    (hfu : u.isFinite = true) (hfv : v.isFinite = true) (hpu : isPlus u = true)
    (hpv : isPlus v = true) :
    Lands (UnpackedFloat.mul .binary64 u v) (spot (ticks u * ticks v).toNat (-2148)) := by
  rcases u with _ | _ | (_ | _) | ⟨_ | _, m, e, hm⟩
  case infinity | notANumber => cases hfu
  case zero.negative | finite.negative => cases hpu
  all_goals
    rcases v with _ | _ | (_ | _) | ⟨_ | _, m', e', hm'⟩
    case infinity | notANumber => cases hfv
    case zero.negative | finite.negative => cases hpv
  case zero.positive.zero.positive | zero.positive.finite.positive =>
    refine ⟨trivial, rfl, ?_⟩
    rw [show ticks (.zero .positive) = 0 from rfl, Int.zero_mul]
    exact (spot_zero (by decide)).symm
  case finite.positive.zero.positive =>
    refine ⟨trivial, rfl, ?_⟩
    rw [show ticks (.zero .positive) = 0 from rfl, Int.mul_zero]
    exact (spot_zero (by decide)).symm
  case finite.positive.finite.positive =>
    obtain ⟨⟨-, hleast, hfull⟩, -⟩ := hu
    obtain ⟨⟨-, hleast', hfull'⟩, -⟩ := hv
    have hne : m * m' ≠ 0 := (Nat.mul_pos hm hm').ne'
    -- Either a mantissa is full, and so is the product, or both exponents are the least one.
    have hfine : e + e' ≤ target (m * m') (e + e') := by
      have hlog : 2 ^ 52 ≤ m * m' → 52 ≤ (m * m').log2 := (Nat.le_log2 hne).mpr
      have hleft : m ≤ m * m' := Nat.le_mul_of_pos_right m hm'
      have hright : m' ≤ m * m' := Nat.le_mul_of_pos_left m' hm
      unfold target
      omega
    obtain ⟨hrounded, hnumber, hplace⟩ := place_roundWithAccuracy .positive hfine
    refine ⟨hrounded, hnumber, hplace.trans ?_⟩
    have hticks : (ticks (.finite .positive m e hm) * ticks (.finite .positive m' e' hm')).toNat =
        m * m' * 2 ^ (e + e' + 2148).toNat := by
      have hpow : (e + e' + 2148).toNat = (e + 1074).toNat + (e' + 1074).toNat := by omega
      rw [hpow, Nat.pow_add, ← Int.toNat_natCast (m * m' * _)]
      congr 1
      simp only [ticks, Sign.apply]
      push_cast
      ring
    have hexponent : e + e' - ((e + e' + 2148).toNat : ℤ) = -2148 := by omega
    rw [hticks, ← hexponent, spot_mul hne hfine]
    rfl

/-- A number that was read from bits and carries no minus sign. -/
structure Unsigned (u : UnpackedFloat) : Prop where
  canonical : Canonical u
  number : u.isNaN = false
  plus : isPlus u = true

theorem Unsigned.place_nonneg {u : UnpackedFloat} (h : Unsigned u) : 0 ≤ place u := by
  obtain ⟨hcanonical, -, hplus⟩ := h
  rcases u with (_ | _) | _ | (_ | _) | ⟨_ | _, m, e, hm⟩
  case infinity.negative | zero.negative | finite.negative => cases hplus
  all_goals
    simp only [place, Sign.apply, lastPlace, Canonical, Fits] at hcanonical ⊢
    try omega

theorem Unsigned.ticks_nonneg {u : UnpackedFloat} (h : Unsigned u) : 0 ≤ ticks u := by
  have hplus := h.plus
  rcases u with (_ | _) | _ | (_ | _) | ⟨_ | _, m, e, hm⟩
  case infinity.negative | zero.negative | finite.negative => cases hplus
  case finite.positive => exact Int.mul_nonneg (Int.natCast_nonneg m) (pow_nonneg (by decide) _)
  all_goals exact le_rfl

theorem mul_infinity {u : UnpackedFloat} (hplus : isPlus u = true)
    (hn : (UnpackedFloat.mul .binary64 u (.infinity .positive)).isNaN = false) :
    UnpackedFloat.mul .binary64 u (.infinity .positive) = .infinity .positive := by
  rcases u with (_ | _) | _ | (_ | _) | ⟨_ | _, m, e, hm⟩
  case infinity.negative | zero.negative | finite.negative => cases hplus
  case notANumber | zero.positive => cases hn
  all_goals rfl

/-- A product of a finite float and another one grows with both of them. -/
theorem place_mul_mono {u u' v v' : UnpackedFloat} (hu : Unsigned u) (hu' : Unsigned u')
    (hv : Unsigned v) (hv' : Unsigned v') (hfu : u.isFinite = true) (hfu' : u'.isFinite = true)
    (hle : place u ≤ place u') (hle' : place v ≤ place v')
    (hn' : (UnpackedFloat.mul .binary64 u' v').isNaN = false) :
    place (unpack .binary64 (pack .binary64 (UnpackedFloat.mul .binary64 u v))) ≤
      place (unpack .binary64 (pack .binary64 (UnpackedFloat.mul .binary64 u' v'))) := by
  by_cases htop : v' = .infinity .positive
  · rw [htop] at hn' ⊢
    rw [mul_infinity hu'.plus hn']
    exact (place_bounds (canonical_unpack _)).2
  · have hlast : 0 < lastPlace := by decide
    have hhigh : place v' < lastPlace :=
      lt_of_le_of_ne (place_bounds hv'.canonical).2 fun h =>
        htop (eq_infinity_of_place hv'.canonical .positive h)
    have hpos := hv.place_nonneg
    have hpos' := hv'.place_nonneg
    have hfv : v.isFinite = true := (isFinite_iff hv.canonical hv.number).mpr ⟨by omega, by omega⟩
    have hfv' : v'.isFinite = true :=
      (isFinite_iff hv'.canonical hv'.number).mpr ⟨by omega, by omega⟩
    obtain ⟨hrounded, hn, hplace⟩ :=
      place_mul hu.canonical hv.canonical hfu hfv hu.plus hv.plus
    obtain ⟨hrounded', -, hplace'⟩ :=
      place_mul hu'.canonical hv'.canonical hfu' hfv' hu'.plus hv'.plus
    rw [(place_unpack_pack hrounded hn).2, (place_unpack_pack hrounded' hn').2, hplace, hplace']
    refine clamp_mono (spot_mono (by decide) (Int.toNat_le_toNat ?_))
    exact mul_le_mul (ticks_mono hu.canonical hu'.canonical hfu hfu' hle)
      (ticks_mono hv.canonical hv'.canonical hfv hfv' hle') hv.ticks_nonneg hu'.ticks_nonneg

/-- A finite number above zero times a number without a minus sign is a number that can be
packed. -/
theorem rounded_mul {u v : UnpackedFloat} (hu : Unsigned u) (hv : Unsigned v)
    (hfu : u.isFinite = true) (hpos : 0 < place u) :
    Rounded (UnpackedFloat.mul .binary64 u v) ∧
      (UnpackedFloat.mul .binary64 u v).isNaN = false := by
  by_cases hfv : v.isFinite = true
  · obtain ⟨hrounded, hnumber, -⟩ := place_mul hu.canonical hv.canonical hfu hfv hu.plus hv.plus
    exact ⟨hrounded, hnumber⟩
  · have hplus := hv.plus
    have hnumber := hv.number
    rcases v with (_ | _) | _ | _ | _
    case infinity.negative => cases hplus
    case notANumber => cases hnumber
    case zero | finite => exact absurd rfl hfv
    case infinity.positive =>
      rcases u with _ | _ | _ | _
      case infinity | notANumber => cases hfu
      case zero => exact absurd hpos (lt_irrefl 0)
      case finite => exact ⟨trivial, rfl⟩

/-! ## Natural numbers -/

/-- The ticks of one. -/
def unit : ℕ :=
  2 ^ 1074

/-- One, with all the digits that there is room for. -/
def one : UnpackedFloat :=
  .finite .positive (2 ^ 52) (-52) (by decide)

theorem two_pow_mul_two_pow {j k : ℕ} (h : j + k = 1074) : 2 ^ j * 2 ^ k = unit := by
  have hpow : 2 ^ (j + k) = unit := congrArg (fun n => 2 ^ n) h
  rw [← hpow, Nat.pow_add]

theorem ticks_one : ticks one = unit := by
  show ((2 ^ 52 : ℕ) : ℤ) * 2 ^ ((-52 : ℤ) + 1074).toNat = unit
  rw [← two_pow_mul_two_pow (show 52 + ((-52 : ℤ) + 1074).toNat = 1074 from rfl), Nat.cast_mul,
    Nat.cast_pow 2 ((-52 : ℤ) + 1074).toNat, Nat.cast_ofNat]

/-- A product with one stays in its place. -/
theorem place_mul_one {u : UnpackedFloat} (h : Unsigned u) :
    (unpack .binary64 (pack .binary64 (UnpackedFloat.mul .binary64 u one))).isNaN = false ∧
      place (unpack .binary64 (pack .binary64 (UnpackedFloat.mul .binary64 u one))) = place u := by
  by_cases hfu : u.isFinite = true
  · have hone : Canonical one := ⟨⟨by decide, by decide, .inl le_rfl⟩, by decide⟩
    obtain ⟨hrounded, hn, hplace⟩ := place_mul h.canonical hone hfu rfl h.plus rfl
    obtain ⟨hnumber, hpacked⟩ := place_unpack_pack hrounded hn
    refine ⟨hnumber, ?_⟩
    -- The ticks of one are a power of two, which only writes the value with more digits.
    obtain ⟨m, hm⟩ := Int.eq_ofNat_of_zero_le h.ticks_nonneg
    have hspot : spot (m * unit) (-2148) = spot m (-1074) := by
      rcases Nat.eq_zero_or_pos m with rfl | hpos
      · rw [Nat.zero_mul, spot_zero (by decide), spot_zero le_rfl]
      · exact spot_mul hpos.ne' (le_max_right _ _) 1074
    rw [hpacked, hplace, ← clamp_place h.canonical, place_eq_signedSpot_ticks h.canonical hfu,
      ticks_one, hm, ← Int.natCast_mul, Int.toNat_natCast, hspot]
    rfl
  · rcases u with (_ | _) | _ | _ | _
    case infinity.positive =>
      obtain ⟨hnumber, hpacked⟩ := place_unpack_pack (u := .infinity .positive) trivial rfl
      exact ⟨hnumber, hpacked.trans (clamp_place h.canonical)⟩
    case infinity.negative => cases h.plus
    case notANumber => cases h.number
    all_goals exact absurd rfl hfu

theorem apply_positive (n : ℤ) : Sign.positive.apply n = n :=
  rfl

theorem signedSpot_natCast (m : ℕ) {e : ℤ} (he : e ≤ -1074) : signedSpot m e = spot m e := by
  rw [← apply_positive m, signedSpot_apply .positive m he, apply_positive]

/-- The float of a number of more digits than there is room for. -/
theorem place_ofScientific {n : ℕ} (hn : 2 ^ 53 ≤ n) :
    Lands (UnpackedFloat.ofScientific .binary64 n 0) (spot (n * unit) (-1074)) := by
  have hne : n ≠ 0 := by omega
  have hfine : (-53 : ℤ) ≤ target (n * 2 ^ 53) (-53) := by
    have htarget := target_mul hne 0 53
    rw [show (0 : ℤ) - (53 : ℕ) = -53 from rfl] at htarget
    rw [htarget]
    unfold target
    omega
  have hspot : spot (n * 2 ^ 53) (-53) = spot (n * unit) (-1074) := by
    rw [spot_eq_spot_ticks (Nat.mul_ne_zero hne (Nat.two_pow_pos 53).ne') (by decide) hfine,
      Nat.mul_assoc, two_pow_mul_two_pow rfl]
  have hresult : UnpackedFloat.ofScientific .binary64 n 0 =
      roundWithAccuracy .binary64 .positive (n * 2 ^ 53) (-53) .exact := by
    have hsum : (0 : ℤ) ≤ 2 ^ Format.binary64.exponentBits + n.log2 :=
      Int.add_nonneg (pow_nonneg (by decide) _) (Int.natCast_nonneg _)
    have hsmall := not_lt.mpr (neg_nonpos.mpr hsum)
    rw [UnpackedFloat.ofScientific, dif_neg hne, if_neg (by decide), if_neg hsmall, if_pos le_rfl]
    show roundWithAccuracy .binary64 .positive (n <<< 53 * 1) (-53 + 0) .exact = _
    rw [Nat.shiftLeft_eq, Nat.mul_one, Int.add_zero]
  rw [hresult, ← hspot, ← apply_positive (spot _ _)]
  exact place_roundWithAccuracy .positive hfine

/-- A natural number goes to the place nearest to it. -/
theorem placeOf_ofNat (n : ℕ) : (Float.ofNat n).isNaN = false ∧
    placeOf (Float.ofNat n) = clamp (spot (n * unit) (-1074)) := by
  show (Float.ofScientific n false 0).isNaN = false ∧ placeOf (Float.ofScientific n false 0) = _
  unfold Float.ofScientific
  split
  · -- A number that fits a machine word is taken from it and scaled by one.
    rename_i hsmall
    have hword : n.toUInt64.toNat = n := Nat.mod_eq_of_lt (by omega)
    have hone : (Float.ofBits 0x3FF0000000000000).toModel.unpack = one := rfl
    have hzero : (-1074 : ℤ) ≤ 0 := by decide
    obtain ⟨hrounded, hn, hplace⟩ := place_normalize n hzero .positive
    rw [show ((0 : ℤ) + 1074).toNat = 1074 from rfl, ← Nat.cast_two, ← Nat.cast_pow,
      ← Nat.cast_mul, signedSpot_natCast _ le_rfl, ← unit] at hplace
    obtain ⟨hnumber, hpacked⟩ := place_unpack_pack hrounded hn
    have hunsigned : Unsigned (unpack .binary64 (pack .binary64
        (UnpackedFloat.normalize .binary64 n 0 .positive))) :=
      ⟨canonical_unpack _, hnumber, isPlus_pack (isPlus_normalize _ _ _)⟩
    have hproduct := place_mul_one hunsigned
    rw [hpacked, hplace, ← hone] at hproduct
    have hnormal : UnpackedFloat.ofUInt64 .binary64 n.toUInt64 =
        UnpackedFloat.normalize .binary64 n 0 .positive := by
      rw [UnpackedFloat.ofUInt64, hword]
      rfl
    rw [← hnormal] at hproduct
    exact hproduct
  · rename_i hlarge
    obtain ⟨hrounded, hn, hplace⟩ := place_ofScientific (n := n) (by omega)
    obtain ⟨hnumber, hpacked⟩ := place_unpack_pack hrounded hn
    rw [hplace] at hpacked
    exact ⟨hnumber, hpacked⟩

theorem placeOf_ofNat_mono {m n : ℕ} (h : m ≤ n) :
    placeOf (Float.ofNat m) ≤ placeOf (Float.ofNat n) := by
  rw [(placeOf_ofNat m).2, (placeOf_ofNat n).2]
  exact clamp_mono (spot_mono le_rfl (Nat.mul_le_mul_right _ h))

/-! ## Floats -/

theorem placeOf_add_mono {x x' z z' : Float} (hle : placeOf x ≤ placeOf x')
    (hle' : placeOf z ≤ placeOf z') (hn : (x + z).isNaN = false) (hn' : (x' + z').isNaN = false) :
    placeOf (x + z) ≤ placeOf (x' + z') :=
  place_add_mono (canonical_toModel x) (canonical_toModel x') (canonical_toModel z)
    (canonical_toModel z') hle hle' (isNaN_of_unpack_pack hn) (isNaN_of_unpack_pack hn')

/-- A sum of numbers is a number when one of them is finite. -/
theorem isNaN_add {x z : Float} (hx : x.isNaN = false) (hz : z.isNaN = false)
    (h : x.isFinite = true ∨ z.isFinite = true) : (x + z).isNaN = false := by
  obtain ⟨hrounded, hnumber⟩ := rounded_add (canonical_toModel x) (canonical_toModel z) hx hz h
  exact (place_unpack_pack hrounded hnumber).1

/-- A finite float above zero. -/
structure Positive (x : Float) : Prop where
  number : x.isNaN = false
  plus : isPlus x.toModel.unpack = true
  finite : x.isFinite = true
  positive : 0 < placeOf x

theorem Positive.unsigned {x : Float} (h : Positive x) : Unsigned x.toModel.unpack :=
  ⟨canonical_toModel x, h.number, h.plus⟩

theorem unsigned_ofNat (n : ℕ) : Unsigned (Float.ofNat n).toModel.unpack :=
  ⟨canonical_toModel _, (placeOf_ofNat n).1, isPlus_ofNat n⟩

theorem Positive.isNaN_mul_ofNat {x : Float} (h : Positive x) (n : ℕ) :
    (x * Float.ofNat n).isNaN = false := by
  obtain ⟨hrounded, hnumber⟩ := rounded_mul h.unsigned (unsigned_ofNat n) h.finite h.positive
  exact (place_unpack_pack hrounded hnumber).1

theorem Positive.placeOf_mul_ofNat_mono {x x' : Float} (h : Positive x) (h' : Positive x')
    (hle : placeOf x ≤ placeOf x') {m n : ℕ} (hmn : m ≤ n) :
    placeOf (x * Float.ofNat m) ≤ placeOf (x' * Float.ofNat n) :=
  place_mul_mono h.unsigned h'.unsigned (unsigned_ofNat m) (unsigned_ofNat n) h.finite h'.finite hle
    (placeOf_ofNat_mono hmn) (isNaN_of_unpack_pack (h'.isNaN_mul_ofNat n))

end Helpdesk.Score
