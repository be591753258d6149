/-!
# Hexadecimal digits

Numbers written in base sixteen with small or capital letters, padded to a width, and the UTF-8
bytes of a character, which the escapes of quoted text and of URLs write one by one.

Main results:

- `hexValue_hexDigit`: a digit below sixteen, written in either case, reads back as itself.
- `utf8Bytes_ascii`: an ASCII character is its own single byte.
-/

namespace DashboardHarness.Text

/-- The hexadecimal digit of a number below sixteen, with small or capital letters. -/
def hexDigit (capital : Bool) (d : Nat) : Char :=
  if d < 10 then Char.ofNat (48 + d)
  else if capital then Char.ofNat (55 + d) else Char.ofNat (87 + d)

/-- The hexadecimal digits of a number, most significant first, at least `width` of them. -/
def hexDigits (capital : Bool) (width n : Nat) : List Char :=
  let digits := (Nat.toDigits 16 n).map fun c =>
    if capital then c.toUpper else c
  List.replicate (width - digits.length) '0' ++ digits

/-- The UTF-8 bytes of a character. -/
def utf8Bytes (c : Char) : List Nat :=
  let n := c.toNat
  if n < 0x80 then [n]
  else if n < 0x800 then [0xC0 + n / 64, 0x80 + n % 64]
  else if n < 0x10000 then [0xE0 + n / 4096, 0x80 + n / 64 % 64, 0x80 + n % 64]
  else [0xF0 + n / 262144, 0x80 + n / 4096 % 64, 0x80 + n / 64 % 64, 0x80 + n % 64]

/-- The UTF-8 bytes of a text. -/
def textBytes (s : String) : List Nat :=
  s.toList.flatMap utf8Bytes

/-- The value of a hexadecimal digit, either case. -/
def hexValue? (c : Char) : Option Nat :=
  if '0' ≤ c && c ≤ '9' then some (c.toNat - 48)
  else if 'a' ≤ c && c ≤ 'f' then some (c.toNat - 87)
  else if 'A' ≤ c && c ≤ 'F' then some (c.toNat - 55)
  else none

theorem hexValue_hexDigit (capital : Bool) (d : Nat) (h : d < 16) :
    hexValue? (hexDigit capital d) = some d := by
  revert d
  cases capital <;> decide

theorem utf8Bytes_ascii (c : Char) (h : c.toNat < 0x80) : utf8Bytes c = [c.toNat] := by
  simp [utf8Bytes, h]

end DashboardHarness.Text
