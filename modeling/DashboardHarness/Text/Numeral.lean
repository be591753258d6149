import DashboardHarness.Text.Quoted
import DashboardHarness.Decimal.Binary

/-!
# Reading numbers and truth values

Readers of the textual forms that settings and command-line flags take, with the failures they
report. Truth values are `1 t T TRUE true True` and `0 f F FALSE false False`. Integers have an
optional sign and a base prefix (`0b`, `0o`, `0x`, or a leading `0` for octal), may separate
digits with underscores, and must fit in a signed 64-bit word. Fractions have an optional sign,
digits with an optional point and an optional exponent, in decimal, or in hexadecimal after
`0x` with a binary exponent after `p` that is required; they are rounded to the nearest double,
and also read `Inf`, `Infinity` and `NaN` in any case; a value beyond the doubles is out of
range.

Main definitions:

- `readBool`, `readInt`, `readDecimal`, `readFloat`: the strict readers of truth values,
  integers with a base prefix, decimal integers and floats, each failing with its problem.
-/

namespace DashboardHarness.Text

/-- Why a numeral could not be read. -/
inductive NumeralProblem where
  /-- The text is not a numeral of the kind. -/
  | malformed
  /-- The numeral is too large for the kind. -/
  | range
  deriving DecidableEq, Repr

/-- A failed reading: the reader's name, the text and the problem. -/
structure NumeralError where
  /-- The reader that failed. -/
  reader : String
  /-- The text read. -/
  input : String
  /-- What was wrong. -/
  problem : NumeralProblem
  deriving DecidableEq, Repr

/-- The message of a failed reading. -/
def NumeralError.message (e : NumeralError) : String :=
  "strconv." ++ e.reader ++ ": parsing " ++ quote e.input ++ ": " ++
    (match e.problem with
     | .malformed => "invalid syntax"
     | .range => "value out of range")

/-- Reads a truth value. -/
def readBool (s : String) : Except NumeralError Bool :=
  if ["1", "t", "T", "TRUE", "true", "True"].contains s then .ok true
  else if ["0", "f", "F", "FALSE", "false", "False"].contains s then .ok false
  else .error ⟨"ParseBool", s, .malformed⟩

/-- The value of a digit in bases up to 36, either case. -/
def digitValue (c : Char) : Option Nat :=
  if c.isDigit then some (c.toNat - 48)
  else if 'a' ≤ c.toLower && c.toLower ≤ 'z' then some (c.toLower.toNat - 87)
  else none

/-- Whether underscores stand only between digits, or between a base prefix and a digit. -/
def underscoresFit (cs : List Char) : Bool :=
  let cs := match cs with
    | c :: rest => if c = '-' || c = '+' then rest else cs
    | [] => []
  let (start, hex, body) := match cs with
    | '0' :: b :: rest =>
      if b.toLower = 'b' || b.toLower = 'o' || b.toLower = 'x' then ('0', b.toLower == 'x', rest)
      else ('^', false, cs)
    | _ => ('^', false, cs)
  let last := body.foldl (fun saw c =>
    if saw = '#' then '#'
    else if c.isDigit || (hex && 'a' ≤ c.toLower && c.toLower ≤ 'f') then '0'
    else if c = '_' then (if saw = '0' then '_' else '#')
    else if saw = '_' then '#'
    else '!') start
  last ≠ '_' && last ≠ '#'

/-- Reads digits in a base up to a limit; underscores pass when allowed. -/
def readDigits (base limit : Nat) (underscores : Bool) : Nat → List Char → Except NumeralProblem Nat
  | n, [] => .ok n
  | n, c :: rest =>
    if c = '_' && underscores then readDigits base limit underscores n rest
    else match digitValue c with
      | none => .error .malformed
      | some d =>
        if d ≥ base then .error .malformed
        else if n * base + d > limit then .error .range
        else readDigits base limit underscores (n * base + d) rest

/-- Reads an unsigned integer with an optional base prefix, up to a limit. -/
def readUnsigned (limit : Nat) (cs : List Char) : Except NumeralProblem Nat :=
  if cs.isEmpty then .error .malformed else
  let (base, digits) := match cs with
    | '0' :: b :: rest@(_ :: _) =>
      if b.toLower = 'b' then (2, rest)
      else if b.toLower = 'o' then (8, rest)
      else if b.toLower = 'x' then (16, rest)
      else (8, b :: rest)
    | '0' :: rest => (8, rest)
    | _ => (10, cs)
  match readDigits base limit true 0 digits with
  | .error p => .error p
  | .ok n => if cs.contains '_' && !underscoresFit cs then .error .malformed else .ok n

/-- Reads a signed 64-bit integer with an optional base prefix. -/
def readInt (s : String) : Except NumeralError Int :=
  let fail := fun p => Except.error (NumeralError.mk "ParseInt" s p)
  let cs := s.toList
  if cs.isEmpty then fail .malformed else
  let (negative, digits) := match cs with
    | '+' :: rest => (false, rest)
    | '-' :: rest => (true, rest)
    | _ => (false, cs)
  match readUnsigned (Nat.pow 2 64 - 1) digits with
  | .error p => fail p
  | .ok n =>
    if !negative && n ≥ Nat.pow 2 63 then fail .range
    else if negative && n > Nat.pow 2 63 then fail .range
    else .ok (if negative then -(n : Int) else n)

/-- Reads a signed 64-bit integer in decimal: an optional sign and digits only. -/
def readDecimal (s : String) : Except NumeralError Int :=
  let fail := fun p => Except.error (NumeralError.mk "Atoi" s p)
  let (negative, digits) := match s.toList with
    | '+' :: rest => (false, rest)
    | '-' :: rest => (true, rest)
    | cs => (false, cs)
  if digits.isEmpty then fail .malformed else
  match readDigits 10 (Nat.pow 2 64 - 1) false 0 digits with
  | .error p => fail p
  | .ok n =>
    if !negative && n ≥ Nat.pow 2 63 then fail .range
    else if negative && n > Nat.pow 2 63 then fail .range
    else .ok (if negative then -(n : Int) else n)

/-- Splits the decimal digits off the front. -/
def spanDigits (cs : List Char) : List Char × List Char :=
  cs.span Char.isDigit

/-- The value of decimal digits. -/
def digitsValue (cs : List Char) : Nat :=
  cs.foldl (fun n c => n * 10 + (c.toNat - 48)) 0

/-- The value of hexadecimal digits. -/
def hexDigitsValue (cs : List Char) : Nat :=
  cs.foldl (fun n c => n * 16 + (digitValue c).getD 0) 0

/-- Whether a character is a hexadecimal digit. -/
def isHexDigit (c : Char) : Bool :=
  c.isDigit || ('a' ≤ c.toLower && c.toLower ≤ 'f')

/-- An exponent after its mark: an optional sign and decimal digits, and nothing after them. -/
def readExponent (cs : List Char) : Option Int :=
  let (negative, digits) := match cs with
    | '+' :: more => (false, more)
    | '-' :: more => (true, more)
    | more => (false, more)
  if digits.isEmpty || !digits.all Char.isDigit then none
  else some (if negative then -(digitsValue digits : Int) else digitsValue digits)

/-- The magnitude written by a decimal fraction: digits with an optional point and an optional
exponent after `e`. A value beyond the doubles is out of range; one below them is zero. -/
def readDecimalMagnitude (body : List Char) : Except NumeralProblem Float :=
  let (whole, afterWhole) := spanDigits body
  let (fraction, afterFraction) := match afterWhole with
    | '.' :: rest => spanDigits rest
    | rest => ([], rest)
  if whole.isEmpty && fraction.isEmpty then .error .malformed
  else
    let exponent : Option Int := match afterFraction with
      | [] => some 0
      | e :: rest => if e = 'e' || e = 'E' then readExponent rest else none
    match exponent with
    | none => .error .malformed
    | some e =>
      let mantissa := digitsValue (whole ++ fraction)
      let power := e - fraction.length
      let size : Int := (Nat.toDigits 10 mantissa).length
      if mantissa = 0 || power + size < -400 then .ok 0
      else if power + size > 400 then .error .range
      else
        let x := Float.ofScientific mantissa (power < 0) power.natAbs
        if x.isInf then .error .range else .ok x

/-- The magnitude written by a hexadecimal fraction after its `0x`: hexadecimal digits with an
optional point, and a binary exponent after `p`, which is required. -/
def readHexMagnitude (body : List Char) : Except NumeralProblem Float :=
  let (whole, afterWhole) := body.span isHexDigit
  let (fraction, afterFraction) := match afterWhole with
    | '.' :: rest => rest.span isHexDigit
    | rest => ([], rest)
  if whole.isEmpty && fraction.isEmpty then .error .malformed
  else
    let exponent : Option Int := match afterFraction with
      | p :: rest => if p = 'p' || p = 'P' then readExponent rest else none
      | [] => none
    match exponent with
    | none => .error .malformed
    | some e =>
      match Decimal.encode (hexDigitsValue (whole ++ fraction)) (e - 4 * fraction.length) with
      | some bits => .ok (Float.ofBits bits.toUInt64)
      | none => .error .range

/-- Reads a decimal or hexadecimal fraction into a double. `Inf`, `Infinity` and `NaN` are read
in any case, the infinities with an optional sign. Underscores may separate digits, as they may
in an integer. -/
def readFloat (s : String) : Except NumeralError Float :=
  let fail := fun p => Except.error (NumeralError.mk "ParseFloat" s p)
  let cs := s.toList
  let (negative, body) := match cs with
    | '+' :: rest => (false, rest)
    | '-' :: rest => (true, rest)
    | _ => (false, cs)
  let word := String.ofList (body.map Char.toLower)
  let signed := fun (x : Float) => if negative then -x else x
  if word = "inf" || word = "infinity" then .ok (signed (1.0 / 0.0))
  else if word = "nan" && body.length = cs.length then .ok (0.0 / 0.0)
  else if cs.contains '_' && !underscoresFit cs then fail .malformed
  else
    let digits := body.filter (· ≠ '_')
    let magnitude := match body, digits with
      | '0' :: x :: _ :: _, _ :: _ :: rest =>
        if x = 'x' || x = 'X' then readHexMagnitude rest else readDecimalMagnitude digits
      | _, _ => readDecimalMagnitude digits
    match magnitude with
    | .ok x => .ok (signed x)
    | .error p => fail p

end DashboardHarness.Text
