import DashboardHarness.Decimal.Shortest

/-!
# Decimal text of doubles

Two ways to write a double. With a fixed number of places the exact value is rounded to that
many decimals, a tie to the even last digit, and a negative value keeps its minus sign even
when it rounds to zero. The shortest form writes the digits of `Decimal.Shortest` positionally
from `10^-6` up to below `10^21` and with an exponent outside that range, the form that data
interchange uses. NaN and the infinities are written `NaN`, `+Inf` and `-Inf`.

Main definitions:

- `fixed`: a double rounded to a number of decimals, a tie to the even last digit.
- `interchange`: the shortest text of a double in the interchange form.
-/

namespace DashboardHarness.Decimal

/-- The decimal places of a whole number `q` scaled by `10^places`. -/
def placesText (q places : Nat) : String :=
  let whole := q / Nat.pow 10 places
  let frac := q % Nat.pow 10 places
  let fracDigits := Nat.toDigits 10 frac
  let padded := List.replicate (places - fracDigits.length) '0' ++ fracDigits
  if places = 0 then String.ofList (Nat.toDigits 10 whole)
  else String.ofList (Nat.toDigits 10 whole ++ '.' :: padded)

/-- A double rounded to `places` decimals, a tie to the even last digit. -/
def fixed (places : Nat) (x : Float) : String :=
  match decode x with
  | .nan => "NaN"
  | .infinite negative => if negative then "-Inf" else "+Inf"
  | .finite b =>
    let (twoNum, twoDen) := scaled 2 b.exponent
    let q := roundHalfEven (b.mantissa * twoNum * Nat.pow 10 places) twoDen
    (if b.negative then "-" else "") ++ placesText q places

/-- The shortest digits of a double, or none for zero. -/
def shortestDigits (b : Binary) : Option Digits :=
  if b.mantissa = 0 then none else some (shortestPositive b)

/-- Digits written positionally: `significand * 10^exponent` with a point where needed. -/
def positional (d : Digits) : String :=
  let ds := d.chars
  if 0 ≤ d.exponent then String.ofList (ds ++ List.replicate d.exponent.toNat '0')
  else
    let shift := (-d.exponent).toNat
    if shift < ds.length then
      String.ofList (ds.take (ds.length - shift) ++ '.' :: ds.drop (ds.length - shift))
    else String.ofList ('0' :: '.' :: List.replicate (shift - ds.length) '0' ++ ds)

/-- Digits written with one digit before the point and a signed exponent of at least
`minExponentDigits` digits. -/
def scientific (minExponentDigits : Nat) (d : Digits) : String :=
  let ds := d.chars
  let power : Int := d.exponent + ds.length - 1
  let mantissa := match ds with
    | [] => ['0']
    | [c] => [c]
    | c :: rest => c :: '.' :: rest
  let expDigits := Nat.toDigits 10 power.natAbs
  let expPadded := List.replicate (minExponentDigits - expDigits.length) '0' ++ expDigits
  String.ofList (mantissa ++ 'e' :: (if power < 0 then '-' else '+') :: expPadded)

/-- Whether the digits stand for a number from `10^-6` up to below `10^21`, the range that the
interchange form writes positionally. -/
def inPositionalRange (d : Digits) : Bool :=
  let power : Int := d.exponent + d.chars.length - 1
  (-7 < power) && power < 21

/-- The shortest text of a double in the interchange form: positional within the range, else
with an exponent of at least one digit; `NaN`, `+Inf` and `-Inf` otherwise. -/
def interchange (x : Float) : String :=
  match decode x with
  | .nan => "NaN"
  | .infinite negative => if negative then "-Inf" else "+Inf"
  | .finite b =>
    let sign := if b.negative then "-" else ""
    match shortestDigits b with
    | none => sign ++ "0"
    | some d => sign ++ (if inPositionalRange d then positional d else scientific 1 d)

end DashboardHarness.Decimal
