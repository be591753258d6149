/-!
# Binary64 values as integers

A double is decoded from its bits into a sign, an integral mantissa and a power of two, so that
its exact value is a rational number that exact `Nat` arithmetic can compare, round and write.

Main definitions:

- `decode`: the exact value of the bits of a double, or its NaN or infinity.
- `encode`: the bits of the double nearest to an exact value, a tie to the even one.
- `roundHalfEven`: division rounded to the nearest integer, a tie to the even one.
-/

namespace DashboardHarness.Decimal

/-- A finite double as an exact value: `(-1)^sign * mantissa * 2^exponent`. -/
structure Binary where
  /-- Whether the sign bit is set. -/
  negative : Bool
  /-- The integral mantissa, below `2^53`. -/
  mantissa : Nat
  /-- The power of two that scales the mantissa. -/
  exponent : Int
  /-- Whether the mantissa is the least of its binade, so that the next lower double is nearer
  than the next higher one. -/
  lowerGapHalf : Bool
  deriving Repr, DecidableEq

/-- What a double is: a finite value, a NaN or an infinity of a sign. -/
inductive Kind where
  | finite (b : Binary)
  | nan
  | infinite (negative : Bool)
  deriving Repr, DecidableEq

/-- The exact value of a double's bits. -/
def decode (x : Float) : Kind :=
  let bits : Nat := x.toBits.toNat
  let negative := bits / Nat.pow 2 63 == 1
  let field : Nat := bits / Nat.pow 2 52 % 2048
  let fraction : Nat := bits % Nat.pow 2 52
  if field == 2047 then
    if fraction == 0 then .infinite negative else .nan
  else if field == 0 then
    .finite ⟨negative, fraction, -1074, false⟩
  else
    .finite ⟨negative, fraction + Nat.pow 2 52, (field : Int) - 1075, fraction == 0 && field > 1⟩

/-- A power of two or ten with an integer exponent, as a numerator and a denominator. -/
def scaled (base : Nat) (e : Int) : Nat × Nat :=
  if 0 ≤ e then (Nat.pow base e.toNat, 1) else (1, Nat.pow base (-e).toNat)

/-- Division rounded to the nearest integer, a tie to the even one. -/
def roundHalfEven (num den : Nat) : Nat :=
  let q := num / den
  let r := num % den
  if 2 * r < den then q
  else if 2 * r > den then q + 1
  else if q % 2 == 0 then q else q + 1

/-- The bits of the double nearest to `mantissa * 2^exponent`, a tie to the even one, or none
when the value is beyond the largest double. The value is counted in units of its last place:
`2^(top - 52)` for a value in `[2^top, 2^(top+1))`, but never below `2^-1074`, where the
subnormal doubles keep a fixed unit. -/
def encode (mantissa : Nat) (exponent : Int) : Option Nat :=
  if mantissa = 0 then some 0 else
  let top : Int := (mantissa.log2 : Int) + exponent
  let unit : Int := max (top - 52) (-1074)
  let units :=
    if unit ≤ exponent then mantissa * Nat.pow 2 (exponent - unit).toNat
    else roundHalfEven mantissa (Nat.pow 2 (unit - exponent).toNat)
  let (units, unit) := if units = Nat.pow 2 53 then (Nat.pow 2 52, unit + 1) else (units, unit)
  if units < Nat.pow 2 52 then some units
  else
    let field := unit + 1075
    if field > 2046 then none else some (field.toNat * Nat.pow 2 52 + (units - Nat.pow 2 52))

end DashboardHarness.Decimal
