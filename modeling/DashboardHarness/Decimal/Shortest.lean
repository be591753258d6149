import DashboardHarness.Decimal.Binary

/-!
# Shortest decimal digits of a double

The fewest significant decimal digits that read back as the same double, and of those the
digits nearest to its exact value. A double `v` reads back from every real number in its
rounding interval, which reaches halfway to each neighbouring double and includes its ends when
the mantissa is even. For `n = 1, 2, …, 17` digits the interval is tested against the grid of
numbers with `n` significant digits at the order of magnitude of `v`; the first grid that meets
the interval gives the digits, and of its points in the interval the one nearest to `v` wins.

Main definitions:

- `shortestPositive`: the shortest digits of a positive finite double, nearest to its exact
  value.
- `Digits.value`: the number that digits stand for, as a numerator and a denominator.
-/

namespace DashboardHarness.Decimal

/-- Decimal digits and a power of ten: the number `digits * 10^exponent`. The digits carry no
trailing zero. -/
structure Digits where
  /-- The significand as a whole number. -/
  significand : Nat
  /-- The power of ten that scales it. -/
  exponent : Int
  deriving Repr, DecidableEq

/-- The significand without trailing zeros, the exponent raised to match. -/
def Digits.normalize (d : Digits) : Digits :=
  go d.significand d.exponent (d.significand.log2 + 1)
where
  /-- Strips one trailing zero per step, at most `fuel` times. -/
  go (s : Nat) (e : Int) : Nat → Digits
    | 0 => ⟨s, e⟩
    | fuel + 1 => if s ≠ 0 ∧ s % 10 = 0 then go (s / 10) (e + 1) fuel else ⟨s, e⟩

/-- The decimal characters of the significand. -/
def Digits.chars (d : Digits) : List Char :=
  Nat.toDigits 10 d.significand

/-- Compares `d * 10^k` with `x * 2^e` through the integer factors that clear both
denominators: `d * 10^k ≤ x * 2^e` iff `d * left ≤ x * right`. -/
def crossFactors (k e : Int) : Nat × Nat :=
  let (tenNum, tenDen) := scaled 10 k
  let (twoNum, twoDen) := scaled 2 e
  (tenNum * twoDen, twoNum * tenDen)

/-- The largest `E` with `10^E ≤ m * 2^e`, for `m > 0`, from an estimate by logarithms that is
corrected by exact comparison. -/
def decimalMagnitude (m : Nat) (e : Int) : Int :=
  let estimate : Int := ((e + m.log2) * 30103) / 100000
  let atMost (k : Int) : Bool :=
    let (l, r) := crossFactors k e
    l ≤ m * r
  let down := fun k => if atMost k then k else k - 1
  let up := fun k => if atMost (k + 1) then k + 1 else k
  up (up (down (down estimate)))

/-- The grid points `d * 10^k` inside the rounding interval of `v = 4m * 2^(e-2)`, whose ends
are `low` and `high` in the same unit, as the least and greatest `d`. -/
def gridRange (low high : Nat) (inclusive : Bool) (k e : Int) : Nat × Nat :=
  let (l, r) := crossFactors k (e - 2)
  let lowNum := low * r
  let highNum := high * r
  let first := if lowNum % l == 0 then (if inclusive then lowNum / l else lowNum / l + 1)
    else lowNum / l + 1
  let last := if highNum % l == 0 then (if inclusive then highNum / l else highNum / l - 1)
    else highNum / l
  (first, last)

/-- The shortest digits of a positive finite double, nearest of the shortest. -/
def shortestPositive (b : Binary) : Digits :=
  let m := b.mantissa
  let e := b.exponent
  let high := 4 * m + 2
  let low := if b.lowerGapHalf then 4 * m - 1 else 4 * m - 2
  let inclusive := m % 2 == 0
  let top := decimalMagnitude m e
  let pick (n : Nat) : Option Digits :=
    let k := top - n + 1
    let (first, last) := gridRange low high inclusive k e
    if first ≤ last ∧ 0 < last then
      let (l, r) := crossFactors k (e - 2)
      let nearest := roundHalfEven (4 * m * r) l
      let d := if nearest < first then first else if nearest > last then last else nearest
      some (Digits.normalize ⟨d, k⟩)
    else none
  let rec search : Nat → Nat → Digits
    | 0, _ => Digits.normalize ⟨m, 0⟩
    | fuel + 1, n => match pick n with
      | some d => d
      | none => search fuel (n + 1)
  search 17 1

/-- The number that digits stand for, as a numerator and a denominator. -/
def Digits.value (d : Digits) : Nat × Nat :=
  let (num, den) := scaled 10 d.exponent
  (d.significand * num, den)

end DashboardHarness.Decimal
