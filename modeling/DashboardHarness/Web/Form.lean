import DashboardHarness.Web.Url

/-!
# Query strings and form bodies

A query string, and a form body sent with the type `application/x-www-form-urlencoded`, is a list
of `key=value` pairs joined by `&`; keys and values are percent-encoded, with `+` for a space.
Reading keeps the pairs in order and drops a pair whose key holds a `;` or whose escapes are
invalid, and an empty pair; keys and values are the bytes their escapes decode to, which need not
be UTF-8. Writing sorts the pairs by key and escapes everything but letters,
digits and `-_.~`.

Main definitions:

- `queryEscape`, `queryUnescape`: the escapes of a form value.
- `parseQuery`, `encodeForm`: a form read from its text and written sorted by key.
-/

namespace DashboardHarness.Web

/-- The escape of one byte of a query component. -/
def escapeQueryByte (b : Nat) : List Char :=
  if b == 32 then ['+']
  else if b < 0x80 && !mustEscape (Char.ofNat b) .queryComponent then [Char.ofNat b]
  else '%' :: Text.hexDigits true 2 b

/-- A text escaped as a query component. -/
def queryEscape (s : String) : String :=
  String.ofList ((Text.textBytes s).flatMap escapeQueryByte)

/-- A form field: its name and its value, as the bytes that their escapes decode to. -/
abbrev Field := List Nat × List Nat

/-- A query component with its escapes decoded to bytes and `+` read as a space, or none when
an escape is invalid. -/
def queryUnescape (s : String) : Option (List Nat) :=
  (unescapeBytes .queryComponent s.toList).toOption

/-- One `key=value` pair of a query, or none when it is dropped. -/
def readPair (pair : String) : Option Field :=
  if pair.isEmpty || pair.toList.contains ';' then none
  else
    let (key, value) := match cutAt '=' pair.toList with
      | (k, some v) => (String.ofList k, String.ofList v)
      | (k, none) => (String.ofList k, "")
    match queryUnescape key, queryUnescape value with
    | some k, some v => some (k, v)
    | _, _ => none

/-- The pairs of a query string, in order. -/
def parseQuery (raw : String) : List Field :=
  (raw.splitOn "&").filterMap readPair

/-- The first value of a key, or nothing. -/
def firstValue (pairs : List Field) (key : String) : List Nat :=
  match pairs.find? (·.1 == Text.textBytes key) with
  | some (_, v) => v
  | none => []

/-- A form body from its fields, sorted by key. -/
def encodeForm (fields : List (String × String)) : String :=
  let sorted := fields.mergeSort fun a b => !decide (b.1 < a.1)
  "&".intercalate (sorted.map fun (k, v) => queryEscape k ++ "=" ++ queryEscape v)

end DashboardHarness.Web
