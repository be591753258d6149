import DashboardHarness.Text.Blank
import DashboardHarness.Text.Case
import DashboardHarness.Text.Hex

/-!
# Media types

A media type names the kind of a body: a type made of token characters, optionally a slash and
a subtype, such as `multipart/form-data`, followed by parameters `; name=value`. The type is
read in lower case and trimmed; a parameter name is a token read in lower case, and a value is a
token or a quoted string, in which a backslash before a special character stands for that
character. A semicolon with nothing after it ends the parameters.

Parameters may also be written in the extended form of RFC 2231: `name*=charset'lang'value`
with percent escapes, in the charsets `us-ascii` and `utf-8`, or split into numbered pieces
`name*0`, `name*1`, … (a piece with a star after its number is escaped), which are joined in
order up to the first missing number. An extended value takes the place of a plain one of the
same name. Since an escape may stand for any byte, parameter values are bytes.

Reading has three outcomes: a type with its parameters; a type whose parameters are malformed;
and nothing, when the type is malformed or one parameter is given twice with different values.

Main definitions:

- `MediaType.parse`: a media type read with its parameters, extended parameters included.
- `MediaType.param`: the value of a parameter of a media type.
-/

namespace DashboardHarness.Web

/-- The characters with a meaning of their own in a media type. -/
def isSpecial (c : Char) : Bool := "()<>@,;:\\\"/[]?=".toList.contains c

/-- A character of a token: visible ASCII that is not special. -/
def isTokenChar (c : Char) : Bool := 0x20 < c.toNat && c.toNat < 0x7F && !isSpecial c

/-- The token at the front, and the rest. -/
def takeToken (cs : List Char) : List Char × List Char := cs.span isTokenChar

/-- Whether a type is a token, or a token, a slash and a token. -/
def validEssence (cs : List Char) : Bool :=
  match takeToken cs with
  | ([], _) => false
  | (_, []) => true
  | (_, '/' :: rest) =>
    match takeToken rest with
    | ([], _) => false
    | (_, more) => more.isEmpty
  | _ => false

/-- A quoted string after its opening quote: its text up to the closing quote, and the rest;
none when a line break or the end comes first. -/
def readQuoted (acc : List Char) : List Char → Option (List Char × List Char)
  | [] => none
  | '"' :: rest => some (acc.reverse, rest)
  | '\\' :: d :: more =>
    if isSpecial d then readQuoted (d :: acc) more else readQuoted ('\\' :: acc) (d :: more)
  | c :: rest => if c = '\r' || c = '\n' then none else readQuoted (c :: acc) rest
termination_by cs => cs.length

/-- A parameter value at the front, a quoted string or a token, and the rest; none when there is
none. -/
def readValue (cs : List Char) : Option (List Char × List Char) :=
  match cs with
  | '"' :: rest => readQuoted [] rest
  | _ =>
    match takeToken cs with
    | ([], _) => none
    | (token, rest) => some (token, rest)

/-- The text without its leading blanks. -/
def dropBlanks (cs : List Char) : List Char := cs.dropWhile Text.isBlank

/-- One parameter `; name = value` at the front: its lower-case name, its value and the rest. -/
def readParameter (cs : List Char) : Option (String × String × List Char) :=
  match dropBlanks cs with
  | ';' :: rest =>
    match takeToken (dropBlanks rest) with
    | ([], _) => none
    | (name, rest) =>
      match dropBlanks rest with
      | '=' :: rest =>
        (readValue (dropBlanks rest)).map fun (value, rest) =>
          (String.ofList (name.map Char.toLower), String.ofList value, rest)
      | _ => none
  | _ => none

/-- The parameters as written, in order, or why they cannot be read: `false` for a malformed
parameter, `true` for one given twice with different values. Names with a star are the pieces
of an extended parameter; a name without one may repeat a name with one. -/
def readParameters (seen : List (String × String)) (fuel : Nat) (cs : List Char) :
    Except Bool (List (String × String)) :=
  match fuel with
  | 0 => .ok seen.reverse
  | fuel + 1 =>
    match dropBlanks cs with
    | [] => .ok seen.reverse
    | rest =>
      match readParameter rest with
      | none => if Text.trimBlankList rest = [';'] then .ok seen.reverse else .error false
      | some (name, value, more) =>
        match seen.find? (·.1 == name) with
        | some (_, earlier) => if earlier = value then readParameters seen fuel more else .error true
        | none => readParameters ((name, value) :: seen) fuel more

/-- The bytes of a text whose escapes `%hh` are decoded; none when a `%` is not followed by two
hexadecimal digits. -/
def percentBytes : List Char → Option (List Nat)
  | [] => some []
  | '%' :: a :: b :: rest =>
    match Text.hexValue? a, Text.hexValue? b with
    | some x, some y => (percentBytes rest).map ((x * 16 + y) :: ·)
    | _, _ => none
  | '%' :: _ => none
  | c :: rest => (percentBytes rest).map (Text.utf8Bytes c ++ ·)

/-- An extended value `charset'language'text`: the text decoded, when the charset is
`us-ascii` or `utf-8`. -/
def extendedValue (value : String) : Option (List Nat) :=
  match value.splitOn "\x27" with
  | charset :: _ :: text :: more =>
    let charset := Text.lower charset
    if charset = "us-ascii" || charset = "utf-8" then
      percentBytes ("\x27".intercalate (text :: more)).toList
    else none
  | _ => none

/-- The numbered pieces of an extended parameter from piece `n` on, joined, with whether any
piece was there. -/
def joinPieces (base : String) (pieces : List (String × String)) : Nat → Nat → List Nat × Bool
  | 0, _ => ([], false)
  | fuel + 1, n =>
    let plain := base ++ "*" ++ toString n
    match pieces.find? (·.1 == plain) with
    | some (_, v) =>
      let (rest, _) := joinPieces base pieces fuel (n + 1)
      (Text.textBytes v ++ rest, true)
    | none =>
      match pieces.find? (·.1 == plain ++ "*") with
      | some (_, v) =>
        let decoded :=
          if n = 0 then (extendedValue v).getD [] else (percentBytes v.toList).getD []
        let (rest, _) := joinPieces base pieces fuel (n + 1)
        (decoded ++ rest, true)
      | none => ([], false)

/-- The name of a parameter before its first star, when it has one. -/
def extendedBase (name : String) : Option String :=
  match name.splitOn "*" with
  | base :: _ :: _ => some base
  | _ => none

/-- The value of an extended parameter, from its pieces. -/
def extendedParameter (pieces : List (String × String)) (base : String) : Option (List Nat) :=
  match pieces.find? (·.1 == base ++ "*") with
  | some (_, v) => extendedValue v
  | none =>
    let (joined, any) := joinPieces base pieces (pieces.length + 1) 0
    if any then some joined else none

/-- The parameters by name: the plain ones, with the extended ones in their place. -/
def resolveParameters (written : List (String × String)) : List (String × List Nat) :=
  let plain := written.filter fun (name, _) => (extendedBase name).isNone
  let pieces := written.filter fun (name, _) => (extendedBase name).isSome
  let bases := (pieces.filterMap fun (name, _) => extendedBase name).eraseDups
  let extended := bases.filterMap fun base => (extendedParameter pieces base).map (base, ·)
  (plain.filter fun (name, _) => !extended.any (·.1 == name)).map
      (fun (name, v) => (name, Text.textBytes v)) ++ extended

/-- What a media type reads as. -/
inductive MediaType where
  /-- A type in lower case, with its parameters by name. -/
  | typed (essence : String) (params : List (String × List Nat))
  /-- A type whose parameters are malformed. -/
  | badParameters (essence : String)
  /-- Text that is no media type. -/
  | invalid

/-- Reads a media type. -/
def MediaType.parse (text : String) : MediaType :=
  let (base, params) := text.toList.span (· ≠ ';')
  let essence := Text.trimBlankList (Text.lower (String.ofList base)).toList
  if !validEssence essence then .invalid
  else
    match readParameters [] (params.length + 1) params with
    | .ok written => .typed (String.ofList essence) (resolveParameters written)
    | .error false => .badParameters (String.ofList essence)
    | .error true => .invalid

/-- The type alone, or the empty text when there is none. -/
def MediaType.essence : MediaType → String
  | .typed e _ => e
  | .badParameters e => e
  | .invalid => ""

/-- The value of a parameter of a type whose parameters could be read. -/
def MediaType.param? (t : MediaType) (name : String) : Option (List Nat) :=
  match t with
  | .typed _ params => (params.find? (·.1 == name)).map (·.2)
  | _ => none

end DashboardHarness.Web
