import Helpdesk.Decimal.Fixed

/-!
# Helpdesk.Decimal.Shortest — the fewest digits that read back.

Of all decimals that read back as a given float, the one with the fewest digits is written, and of
several with that many digits the nearest. A float's reading interval runs half way to each of its
neighbours and holds its ends exactly when the significand is even. If a decimal grid has a point in
that interval then so has one of the two grid points next to the value, so two tests a grid are
enough.
-/
namespace Helpdesk.Decimal

/-- The decimal `digits · 10 ^ exponent`. -/
structure Scientific where
  digits : Nat
  exponent : Int

namespace Binary

/-- `candidate · 10 ^ scale` lies between the half-way points to the neighbouring floats. -/
def readsBack (b : Binary) (candidate : Nat) (scale : Int) : Bool :=
  let lowerGap := if b.significand = Nat.pow 2 52 ∧ -1074 < b.exponent then 1 else 2
  let stretch := Nat.pow 10 (-scale).toNat * Nat.pow 2 (b.exponent - 2).toNat
  let low := (4 * b.significand - lowerGap) * stretch
  let high := (4 * b.significand + 2) * stretch
  let middle := candidate * Nat.pow 10 scale.toNat * Nat.pow 2 (2 - b.exponent).toNat
  if b.significand % 2 = 0 then low ≤ middle && middle ≤ high else low < middle && middle < high

/-- The value divided by `10 ^ scale`, as a fraction. -/
def scaled (b : Binary) (scale : Int) : Nat × Nat :=
  (b.numerator * Nat.pow 10 (-scale).toNat, b.denominator * Nat.pow 10 scale.toNat)

/-- The power of ten of the leading digit, looked for upwards from `10 ^ -power`. -/
def leadingPower (b : Binary) : Nat → Int → Int
  | 0, power => power
  | fuel + 1, power =>
    let (n, d) := b.scaled (power + 1)
    if d ≤ n then leadingPower b fuel (power + 1) else power

/-- The best decimal with `count` digits, if one reads back. -/
def withDigits? (b : Binary) (power : Int) (count : Nat) : Option Scientific :=
  let scale := power - (count : Int) + 1
  let (n, d) := b.scaled scale
  let below := n / d
  match b.readsBack below scale, b.readsBack (below + 1) scale with
  | false, false => none
  | true, false => some ⟨below, scale⟩
  | false, true => some ⟨below + 1, scale⟩
  | true, true =>
    let twice := 2 * (n % d)
    if twice < d ∨ (twice = d ∧ below % 2 = 0) then some ⟨below, scale⟩
    else some ⟨below + 1, scale⟩

/-- The shortest decimal of a value other than zero. -/
def shortest (b : Binary) : Scientific :=
  let power := b.leadingPower 640 (-325)
  ((List.range 17).findSome? fun i => b.withDigits? power (i + 1)).getD ⟨b.significand, 0⟩

end Binary

/-- The decimal without trailing zeros in its digits, and the position of the point: the value is
`0.d₁d₂… · 10 ^ point`. -/
def Scientific.pointed (s : Scientific) : List Char × Int :=
  let all := Decimal.digits s.digits
  let kept := (all.reverse.dropWhile (· == '0')).reverse
  (kept, s.exponent + all.length)

/-- How a shortest decimal is laid out. -/
structure Layout where
  /-- The least position of the point that is written without an exponent. -/
  leastPoint : Int
  /-- The greatest position of the point that is written without an exponent. -/
  greatestPoint : Int
  infinity : String
  negativeInfinity : String
  nan : String

/-- Digits and the position of the point, as text. -/
def Layout.place (layout : Layout) (ds : List Char) (point : Int) : List Char :=
  if layout.leastPoint ≤ point ∧ point ≤ layout.greatestPoint then
    if point ≤ 0 then ['0', '.'] ++ List.replicate (-point).toNat '0' ++ ds
    else if (ds.length : Int) ≤ point then
      ds ++ List.replicate (point.toNat - ds.length) '0' ++ ['.', '0']
    else ds.take point.toNat ++ '.' :: ds.drop point.toNat
  else
    let power := point - 1
    let mantissa := match ds with
      | d :: e :: rest => d :: '.' :: e :: rest
      | short => short
    mantissa ++ ['e', if power < 0 then '-' else '+'] ++ padZeros 2 (Decimal.digits power.natAbs)

/-- A float in its shortest decimal form. -/
def Layout.write (layout : Layout) (x : Float) : String :=
  match Binary.ofFloat? x with
  | none => if x.isNaN then layout.nan
      else if isNegative x then layout.negativeInfinity else layout.infinity
  | some b =>
    let sign := if b.negative then ['-'] else []
    if b.significand = 0 then String.ofList (sign ++ ['0', '.', '0'])
    else
      let (ds, point) := b.shortest.pointed
      String.ofList (sign ++ layout.place ds point)

end Helpdesk.Decimal
