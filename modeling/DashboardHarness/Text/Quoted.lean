import DashboardHarness.Text.Printable
import DashboardHarness.Text.Hex
import DashboardHarness.Text.Utf8

/-!
# Double-quoted text

A text written between double quotes so that it reads back unchanged: the quote and the
backslash get a backslash, the seven control characters with a letter escape (`\a`, `\b`,
`\f`, `\n`, `\r`, `\t`, `\v`) use it, other controls below the space and DEL become `\x`
and two small hex digits, any other unprintable character becomes `\u` and four hex digits, or
`\U` and eight above the basic plane. Printable characters stand as themselves, unless only
ASCII may stand, in which case every character beyond it is escaped. Bytes are quoted the same
way, with each byte that is not part of a well-formed UTF-8 sequence written as `\x` and two
hex digits. A text can also stand between back quotes when it holds no back quote, no control
character but the tab and no byte order mark.

Main results:

- `quoteChars_printable`: a printable character other than the quote and the backslash is
  written as itself.
-/

namespace DashboardHarness.Text

/-- The written form of one character inside double quotes; with `asciiOnly` every character
beyond ASCII is escaped as well, printable or not. -/
def quoteCharWith (asciiOnly : Bool) (c : Char) : List Char :=
  if c = '"' then ['\\', '"']
  else if c = '\\' then ['\\', '\\']
  else if isPrintable c && (!asciiOnly || c.toNat < 0x80) then [c]
  else
    let n := c.toNat
    if n = 7 then ['\\', 'a'] else if n = 8 then ['\\', 'b']
    else if n = 12 then ['\\', 'f'] else if n = 10 then ['\\', 'n']
    else if n = 13 then ['\\', 'r'] else if n = 9 then ['\\', 't']
    else if n = 11 then ['\\', 'v']
    else if n < 0x20 || n = 0x7F then '\\' :: 'x' :: hexDigits false 2 n
    else if n < 0x10000 then '\\' :: 'u' :: hexDigits false 4 n
    else '\\' :: 'U' :: hexDigits false 8 n

/-- The written form of one character inside double quotes. -/
def quoteChar (c : Char) : List Char := quoteCharWith false c

/-- The characters between the quotes. -/
def quoteChars (cs : List Char) : List Char :=
  cs.flatMap quoteChar

/-- A text between double quotes, escaped so that it reads back. -/
def quote (s : String) : String :=
  String.ofList ('"' :: quoteChars s.toList ++ ['"'])

/-- Bytes between double quotes: each well-formed UTF-8 sequence is written as its character
would be, and each stray byte as `\x` and two small hex digits, so that the bytes read back. -/
def quoteBytes (bytes : List Nat) : String :=
  String.ofList ('"' :: (decodePieces bytes).flatMap quotePiece ++ ['"'])
where
  /-- The written form of one piece. -/
  quotePiece : Piece → List Char
    | .char c => quoteChar c
    | .stray b => '\\' :: 'x' :: hexDigits false 2 b

/-- A text between double quotes with every character beyond ASCII escaped. -/
def quoteAscii (s : String) : String :=
  String.ofList ('"' :: s.toList.flatMap (quoteCharWith true) ++ ['"'])

/-- Whether a text can stand between back quotes unchanged: it holds no back quote, no control
character but the tab, and no byte order mark. -/
def canBackquote (s : String) : Bool :=
  s.toList.all fun c =>
    c ≠ '\x60' && (c.toNat ≥ 0x20 || c = '\t') && c.toNat ≠ 0x7F && c ≠ '\uFEFF'

theorem quoteChars_printable (c : Char) (h : isPrintable c = true) (hq : c ≠ '"')
    (hb : c ≠ '\\') : quoteChar c = [c] := by
  simp [quoteChar, quoteCharWith, h, hq, hb]

end DashboardHarness.Text
