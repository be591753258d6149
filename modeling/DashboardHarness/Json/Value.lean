import DashboardHarness.Decimal.Fixed
import DashboardHarness.Text.Hex

/-!
# JSON documents

A JSON value with integers and doubles kept apart, and its text. Object fields keep the order in
which they are given. Strings are written with the escapes that make the text safe inside HTML:
besides the quote, the backslash and the control characters (short escapes for backspace, form
feed, newline, carriage return and tab), `<`, `>` and `&` and the two
Unicode line and paragraph separators are written as `\u` escapes. A finite double is written
in its shortest interchange form; a NaN or an infinity, which JSON cannot hold, is written as
the string `"NaN"`, `"+Inf"` or `"-Inf"`.

Main results:

- `escapeChar_plain`: a printable ASCII character that needs no escape is written as itself.
-/

namespace DashboardHarness.Json

/-- A JSON value. -/
inductive Value where
  | null
  | bool (b : Bool)
  | int (n : Int)
  | float (x : Float)
  | str (s : String)
  | arr (items : List Value)
  | obj (fields : List (String × Value))
  deriving Inhabited

/-- The escape of one character inside a JSON string. -/
def escapeChar (c : Char) : List Char :=
  let n := c.toNat
  if c = '"' then ['\\', '"']
  else if c = '\\' then ['\\', '\\']
  else if c = '\n' then ['\\', 'n']
  else if c = '\r' then ['\\', 'r']
  else if c = '\t' then ['\\', 't']
  else if n = 8 then ['\\', 'b']
  else if n = 12 then ['\\', 'f']
  else if n < 0x20 || c = '<' || c = '>' || c = '&' || n = 0x2028 || n = 0x2029 then
    '\\' :: 'u' :: Text.hexDigits false 4 n
  else [c]

/-- A JSON string literal. -/
def quoteString (s : String) : String :=
  String.ofList ('"' :: s.toList.flatMap escapeChar ++ ['"'])

/-- The text of a double: its shortest interchange form, or a string for NaN and the
infinities. -/
def floatText (x : Float) : String :=
  match Decimal.decode x with
  | .finite _ => Decimal.interchange x
  | _ => quoteString (Decimal.interchange x)

mutual
/-- The compact text of a value. -/
def Value.write : Value → String
  | .null => "null"
  | .bool b => if b then "true" else "false"
  | .int n => toString n
  | .float x => floatText x
  | .str s => quoteString s
  | .arr items => "[" ++ writeItems items ++ "]"
  | .obj fields => "\x7b" ++ writeFields fields ++ "\x7d"

/-- The texts of array items, comma-separated. -/
def writeItems : List Value → String
  | [] => ""
  | [v] => v.write
  | v :: rest => v.write ++ "," ++ writeItems rest

/-- The texts of object fields, comma-separated. -/
def writeFields : List (String × Value) → String
  | [] => ""
  | [(k, v)] => quoteString k ++ ":" ++ v.write
  | (k, v) :: rest => quoteString k ++ ":" ++ v.write ++ "," ++ writeFields rest
end

/-- A string value, or null for none. -/
def Value.optStr : Option String → Value
  | some s => .str s
  | none => .null

theorem escapeChar_plain (c : Char) (h1 : 0x20 ≤ c.toNat) (h2 : c.toNat < 0x7F)
    (hq : c ≠ '"') (hb : c ≠ '\\') (hl : c ≠ '<') (hg : c ≠ '>') (ha : c ≠ '&') :
    escapeChar c = [c] := by
  have hn : c ≠ '\n' := by intro h; subst h; simp at h1
  have hr : c ≠ '\r' := by intro h; subst h; simp at h1
  have ht : c ≠ '\t' := by intro h; subst h; simp at h1
  have h8 : c.toNat ≠ 8 := by omega
  have h12 : c.toNat ≠ 12 := by omega
  simp [escapeChar, hq, hb, hn, hr, ht, hl, hg, ha, h8, h12]
  omega

end DashboardHarness.Json
