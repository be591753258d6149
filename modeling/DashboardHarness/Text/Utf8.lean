import DashboardHarness.Text.Hex

/-!
# Reading UTF-8 bytes

Bytes read back into text: each well-formed UTF-8 sequence becomes its character, and each byte
that starts no well-formed sequence is a stray byte, which text shows as the replacement
character U+FFFD.

Bytes are well formed when no byte needed replacing, that is, when the characters read give the
same bytes back.

Main results:

- `decodePieces_ascii`: an ASCII byte reads back as its character.
-/

namespace DashboardHarness.Text

/-- Whether a byte continues a sequence. -/
def isTail (b : Nat) : Bool := 0x80 ≤ b && b < 0xC0

/-- The replacement character. -/
def replacement : Char := '�'

/-- The character of a code point, or the replacement character when it is none. -/
def charOfCode (n : Nat) : Char :=
  if n.isValidChar then Char.ofNat n else replacement

/-- One piece of UTF-8 bytes read back: a character from a well-formed sequence, or a byte that
starts none. -/
inductive Piece where
  /-- A character read from its well-formed sequence. -/
  | char (c : Char)
  /-- A byte that starts no well-formed sequence. -/
  | stray (b : Nat)
  deriving DecidableEq, Repr

/-- The character a piece reads as; a stray byte reads as the replacement character. -/
def Piece.toChar : Piece → Char
  | .char c => c
  | .stray _ => replacement

/-- The pieces of UTF-8 bytes: each well-formed sequence is one character, and a byte that
starts none is a stray byte, after which reading goes on with the next byte. -/
def decodePieces : List Nat → List Piece
  | [] => []
  | b :: rest =>
    if b < 0x80 then .char (Char.ofNat b) :: decodePieces rest
    else if 0xC2 ≤ b && b < 0xE0 then
      match h : rest with
      | c :: more =>
        if isTail c then .char (charOfCode ((b - 0xC0) * 64 + (c - 0x80))) :: decodePieces more
        else .stray b :: decodePieces rest
      | [] => [.stray b]
    else if 0xE0 ≤ b && b < 0xF0 then
      match h : rest with
      | c :: d :: more =>
        let n := (b - 0xE0) * 4096 + (c - 0x80) * 64 + (d - 0x80)
        if isTail c && isTail d && 0x800 ≤ n && !(0xD800 ≤ n && n < 0xE000) then
          .char (charOfCode n) :: decodePieces more
        else .stray b :: decodePieces rest
      | _ => .stray b :: decodePieces rest
    else if 0xF0 ≤ b && b < 0xF5 then
      match h : rest with
      | c :: d :: e :: more =>
        let n := (b - 0xF0) * 262144 + (c - 0x80) * 4096 + (d - 0x80) * 64 + (e - 0x80)
        if isTail c && isTail d && isTail e && 0x10000 ≤ n && n < 0x110000 then
          .char (charOfCode n) :: decodePieces more
        else .stray b :: decodePieces rest
      | _ => .stray b :: decodePieces rest
    else .stray b :: decodePieces rest
termination_by bs => bs.length
decreasing_by all_goals simp_all <;> omega

/-- The characters of UTF-8 bytes, malformed bytes replaced one by one. -/
def decodeChars (bytes : List Nat) : List Char :=
  (decodePieces bytes).map Piece.toChar

/-- The text of UTF-8 bytes. -/
def decodeUtf8 (bytes : List Nat) : String :=
  String.ofList (decodeChars bytes)

/-- The text of UTF-8 bytes when they are well formed, which is when writing the characters
they read as gives the same bytes back. -/
def wellFormed? (bytes : List Nat) : Option String :=
  let cs := decodeChars bytes
  if cs.flatMap utf8Bytes = bytes then some (String.ofList cs) else none

theorem decodePieces_ascii (b : Nat) (rest : List Nat) (h : b < 0x80) :
    decodePieces (b :: rest) = .char (Char.ofNat b) :: decodePieces rest := by
  rw [decodePieces.eq_def]
  simp [h]

end DashboardHarness.Text
