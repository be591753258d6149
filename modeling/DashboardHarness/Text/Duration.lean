import DashboardHarness.Text.Numeral

/-!
# Durations as text

A duration is written as a signed sequence of decimal numbers, each with an optional fraction
and a unit: `ns`, `us` (or `µs`, `μs`), `ms`, `s`, `m`, `h`, as in `1h30m` or `-1.5s`; a bare
`0` is zero. It is read into whole nanoseconds, which must fit in a signed 64-bit word. Written
back, a duration takes the largest units first (`1h30m0s`), seconds with a fraction, and below a
second the unit that keeps the number at least one (`1.5ms`).

Main definitions:

- `readDuration`: the nanoseconds of a duration text.
- `writeDuration`: the text of a duration: hours, minutes and seconds with a fraction, or one
  unit below a second.
-/

namespace DashboardHarness.Text

/-- The text of a duration in the reader's failure messages: between quotes, with quotes and
backslashes escaped and other characters outside printable ASCII written as `\x` bytes. -/
def durationQuote (s : String) : String :=
  String.ofList ('"' :: s.toList.flatMap (fun c =>
    if c.toNat ≥ 0x80 || c.toNat < 0x20 then
      (utf8Bytes c).flatMap fun b => '\\' :: 'x' :: hexDigits false 2 b
    else if c = '"' || c = '\\' then ['\\', c] else [c]) ++ ['"'])

/-- Why a duration could not be read, with its message. -/
def durationFailure (written : String) : String :=
  "time: invalid duration " ++ durationQuote written

/-- The nanoseconds of a unit. -/
def unitNanos : String → Option Nat
  | "ns" => some 1
  | "us" => some 1000
  | "µs" => some 1000
  | "μs" => some 1000
  | "ms" => some 1000000
  | "s" => some 1000000000
  | "m" => some 60000000000
  | "h" => some 3600000000000
  | _ => none

/-- Reads leading decimal digits; none when the value passes `2^63`. -/
def leadingInt (cs : List Char) : Option (Nat × List Char) :=
  let (digits, rest) := cs.span Char.isDigit
  let rec go (n : Nat) : List Char → Option Nat
    | [] => some n
    | c :: more =>
      if n > Nat.pow 2 63 / 10 then none
      else
        let n' := n * 10 + (c.toNat - 48)
        if n' > Nat.pow 2 63 then none else go n' more
  (go 0 digits).map fun n => (n, rest)

/-- Reads the digits of a fraction: its value and scale, digits past the precision ignored. -/
def leadingFraction (cs : List Char) : Nat × Float × List Char :=
  let (digits, rest) := cs.span Char.isDigit
  let (x, scale, _) := digits.foldl (fun (acc : Nat × Float × Bool) c =>
    let (x, scale, overflow) := acc
    if overflow then acc
    else if x > (Nat.pow 2 63 - 1) / 10 then (x, scale, true)
    else
      let y := x * 10 + (c.toNat - 48)
      if y > Nat.pow 2 63 then (x, scale, true) else (y, scale * 10, false)) (0, 1, false)
  (x, scale, rest)

/-- Reads the numbers and units of a duration into nanoseconds, with at most `fuel` parts. -/
def readParts (written : String) : Nat → Nat → List Char → Except String Nat
  | _, total, [] => .ok total
  | 0, _, _ => .error (durationFailure written)
  | fuel + 1, total, cs@(c :: _) =>
    if !(c = '.' || c.isDigit) then .error (durationFailure written) else
    match leadingInt cs with
    | none => .error (durationFailure written)
    | some (v, afterInt) =>
      let pre := afterInt.length != cs.length
      let (f, scale, afterFraction, post) := match afterInt with
        | '.' :: more =>
          let (f, scale, rest) := leadingFraction more
          (f, scale, rest, rest.length != more.length)
        | _ => (0, 1, afterInt, false)
      if !pre && !post then .error (durationFailure written) else
      let (unitChars, rest) := afterFraction.span fun d => !(d = '.' || d.isDigit)
      if unitChars.isEmpty then
        .error ("time: missing unit in duration " ++ durationQuote written)
      else
        let unitText := String.ofList unitChars
        match unitNanos unitText with
        | none =>
          .error ("time: unknown unit " ++ durationQuote unitText ++ " in duration " ++
            durationQuote written)
        | some unit =>
          if v > Nat.pow 2 63 / unit then .error (durationFailure written) else
          let v := v * unit
          let v := if f > 0 then v + (Float.ofNat f * (Float.ofNat unit / scale)).toUInt64.toNat
            else v
          if v > Nat.pow 2 63 then .error (durationFailure written) else
          let total := total + v
          if total > Nat.pow 2 63 then .error (durationFailure written)
          else readParts written fuel total rest

/-- Reads a duration into nanoseconds. -/
def readDuration (s : String) : Except String Int :=
  let (negative, body) := match s.toList with
    | '-' :: rest => (true, rest)
    | '+' :: rest => (false, rest)
    | cs => (false, cs)
  if body = ['0'] then .ok 0
  else if body.isEmpty then .error (durationFailure s)
  else match readParts s (body.length + 1) 0 body with
    | .error e => .error e
    | .ok total =>
      if negative then .ok (-(total : Int))
      else if total > Nat.pow 2 63 - 1 then .error (durationFailure s)
      else .ok total

/-- The digits of a fraction of `10^places`, without trailing zeros, after a point. -/
def fractionText (value places : Nat) : String :=
  let digits := Nat.toDigits 10 value
  let padded := List.replicate (places - digits.length) '0' ++ digits
  let trimmed := (padded.reverse.dropWhile (· = '0')).reverse
  if trimmed.isEmpty then "" else String.ofList ('.' :: trimmed)

/-- A number of a unit with its fraction: `whole.fraction` of `10^places` parts. -/
def unitText (n places : Nat) (unit : String) : String :=
  toString (n / Nat.pow 10 places) ++ fractionText (n % Nat.pow 10 places) places ++ unit

/-- The text of a duration: hours, minutes and seconds with a fraction, or one unit below a
second. -/
def writeDuration (d : Int) : String :=
  let sign := if d < 0 then "-" else ""
  let n := d.natAbs
  if n = 0 then "0s"
  else if n < 1000 then sign ++ toString n ++ "ns"
  else if n < 1000000 then sign ++ unitText n 3 "µs"
  else if n < 1000000000 then sign ++ unitText n 6 "ms"
  else
    let hours := n / 3600000000000
    let minutes := n / 60000000000 % 60
    let seconds := n % 60000000000
    sign ++ (if hours > 0 then toString hours ++ "h" else "") ++
      (if hours > 0 || minutes > 0 then toString minutes ++ "m" else "") ++
      unitText seconds 9 "s"

end DashboardHarness.Text
