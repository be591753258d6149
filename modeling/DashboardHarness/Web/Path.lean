import DashboardHarness.Text.Hex

/-!
# Paths and redirect targets

Paths here are bytes: a decoded escape may stand for any byte, and a path keeps it. A path is
cleaned the way a redirect target is: empty and `.` segments go, a `..` segment takes away the
segment before it (at the root there is none to take), and a rooted path stays rooted. A
redirect target sent in a header has every byte outside ASCII written as `%` and its lowercase
hex value.

Main definitions:

- `cleanPath`: the shortest path naming the same place.
-/

namespace DashboardHarness.Web

/-- The byte of `/`. -/
def slash : Nat := 47

/-- The byte of `.`. -/
def dot : Nat := 46

/-- One segment of a path added to the cleaned segments so far, last one first. -/
def cleanStep (rooted : Bool) (kept : List (List Nat)) (segment : List Nat) : List (List Nat) :=
  if segment.isEmpty || segment = [dot] then kept
  else if segment = [dot, dot] then
    match kept with
    | top :: rest => if top = [dot, dot] then [dot, dot] :: kept else rest
    | [] => if rooted then [] else [[dot, dot]]
  else segment :: kept

/-- The shortest path naming the same place. -/
def cleanPath (p : List Nat) : List Nat :=
  if p.isEmpty then [dot]
  else
    let rooted := p.head? = some slash
    let body := List.intercalate [slash] ((p.splitOn slash).foldl (cleanStep rooted) []).reverse
    if rooted then slash :: body else if body.isEmpty then [dot] else body

/-- The directory part of a path, up to and including its last `/`. -/
def directoryOf (p : List Nat) : List Nat :=
  (p.reverse.dropWhile (· ≠ slash)).reverse

/-- The bytes of a path with those outside ASCII written as `%` and lowercase hex. -/
def hexEscapeNonAscii (p : List Nat) : String :=
  String.ofList (p.flatMap fun b =>
    if b < 0x80 then [Char.ofNat b] else '%' :: Text.hexDigits false 2 b)

end DashboardHarness.Web
