import DashboardHarness.Text.Quoted
import Mathlib

/-!
# Quoted text reads back

Quoting writes each character as a token: the character itself, a backslash and a letter, or a
backslash, a letter and a fixed number of hexadecimal digits that the letter announces. Reading
one token back from the front of a text gives the character and leaves what follows, whatever
that is. So the tokens of a quoted text never run into one another, and none of them begins
with a bare quote: the closing quote is the first bare quote, and a quoted text followed by
anything determines both the text and what follows.

Main results:

- `hexNumber_hexDigits`: padded hexadecimal digits read back as their number.
- `readQuotedChar_quoteChar`: the written form of a character reads back as it.
- `quoteChars_append_quote`: the written characters before a closing quote, and what follows
  it, are determined by the whole.
- `quote_append_inj`: a quoted text followed by anything determines the text and the rest.
-/

namespace DashboardHarness.Text

/-! ## Hexadecimal digits -/

/-- The number that hexadecimal digits write, continuing the number `acc` read so far; none at a
character that is no digit. -/
def hexNumber : List Char → Nat → Option Nat
  | [], acc => some acc
  | d :: ds, acc => (hexValue? d).bind fun v => hexNumber ds (16 * acc + v)

theorem hexNumber_append (xs ys : List Char) (acc : Nat) :
    hexNumber (xs ++ ys) acc = (hexNumber xs acc).bind (hexNumber ys) := by
  induction xs generalizing acc with
  | nil => rfl
  | cons d ds ih =>
    simp only [List.cons_append, hexNumber]
    cases hexValue? d with
    | none => rfl
    | some v => exact ih _

theorem hexValue_digitChar : ∀ d < 16, hexValue? (Nat.digitChar d) = some d := by
  decide

/-- The digits of a number in base sixteen read back as the number. -/
theorem hexNumber_toDigits (n : Nat) : hexNumber (Nat.toDigits 16 n) 0 = some n := by
  induction n using Nat.strongRecOn with
  | ind n ih =>
    rw [Nat.toDigits_eq_if (by decide)]
    split
    · rename_i hsmall
      simp [hexNumber, hexValue_digitChar n hsmall]
    · rename_i hlarge
      rw [hexNumber_append, ih (n / 16) (by omega)]
      simp only [Option.bind_some, hexNumber,
        hexValue_digitChar (n % 16) (Nat.mod_lt n (by decide))]
      congr 1
      omega

/-- Leading zeros do not change the number. -/
theorem hexNumber_zeros (k : Nat) (ds : List Char) :
    hexNumber (List.replicate k '0' ++ ds) 0 = hexNumber ds 0 := by
  induction k with
  | zero => rfl
  | succ k ih => simpa [List.replicate_succ, hexNumber, hexValue?] using ih

/-- Padding a number below `16 ^ width` gives exactly `width` digits. -/
theorem length_hexDigits {width n : Nat} (hwidth : 0 < width) (hn : n < 16 ^ width) :
    (hexDigits false width n).length = width := by
  have hlen := (Nat.length_toDigits_le_iff (by decide) hwidth).2 hn
  simp only [hexDigits, Bool.false_eq_true, if_false, List.map_id', List.length_append,
    List.length_replicate]
  omega

/-- Padded digits read back as their number. -/
theorem hexNumber_hexDigits (width n : Nat) : hexNumber (hexDigits false width n) 0 = some n := by
  simp only [hexDigits, Bool.false_eq_true, if_false, List.map_id']
  rw [hexNumber_zeros, hexNumber_toDigits]

/-! ## One written character -/

/-- Reads the character that `width` hexadecimal digits at the front write, with what follows. -/
def readCode (width : Nat) (rest : List Char) : Option (Char × List Char) :=
  (hexNumber (rest.take width) 0).map fun n => (Char.ofNat n, rest.drop width)

/-- Reads what follows a backslash: a quote, a backslash, one of the seven letters of the control
characters, or `x`, `u` or `U` and two, four or eight hexadecimal digits. -/
def readEscape : List Char → Option (Char × List Char)
  | [] => none
  | c :: rest =>
    if c = '"' ∨ c = '\\' then some (c, rest)
    else if c = 'a' then some (Char.ofNat 7, rest)
    else if c = 'b' then some (Char.ofNat 8, rest)
    else if c = 'f' then some (Char.ofNat 12, rest)
    else if c = 'n' then some (Char.ofNat 10, rest)
    else if c = 'r' then some (Char.ofNat 13, rest)
    else if c = 't' then some (Char.ofNat 9, rest)
    else if c = 'v' then some (Char.ofNat 11, rest)
    else if c = 'x' then readCode 2 rest
    else if c = 'u' then readCode 4 rest
    else if c = 'U' then readCode 8 rest
    else none

/-- Reads one character as quoting writes it, with what follows: an escape, or a character other
than the quote and the backslash. A bare quote is none: there the quoted text ends. -/
def readQuotedChar : List Char → Option (Char × List Char)
  | [] => none
  | c :: rest =>
    if c = '\\' then readEscape rest
    else if c = '"' then none
    else some (c, rest)

@[simp]
theorem readQuotedChar_quote (x : List Char) : readQuotedChar ('"' :: x) = none := rfl

/-- A character written as a backslash, a letter and `width` hexadecimal digits reads back. -/
theorem readQuotedChar_code {c letter : Char} {width : Nat} (hwidth : 0 < width)
    (hc : c.toNat < 16 ^ width)
    (hread : ∀ rest, readEscape (letter :: rest) = readCode width rest) (u : List Char) :
    readQuotedChar ('\\' :: letter :: hexDigits false width c.toNat ++ u) = some (c, u) := by
  have hlen := length_hexDigits hwidth hc
  simp only [readQuotedChar, if_true, List.cons_append, hread, readCode]
  rw [List.take_left' hlen, List.drop_left' hlen, hexNumber_hexDigits]
  simp

/-- Every character lies below the end of the code space. -/
theorem toNat_lt_codeSpace (c : Char) : c.toNat < 0x110000 := by
  have hvalid := c.valid
  simp only [UInt32.isValidChar, Nat.isValidChar] at hvalid
  simp only [Char.toNat]
  omega

/-- A control character written as a backslash and its letter reads back. -/
theorem readQuotedChar_letter {c letter : Char} {n : Nat} (hn : c.toNat = n)
    (hread : ∀ rest, readEscape (letter :: rest) = some (Char.ofNat n, rest)) (u : List Char) :
    readQuotedChar (['\\', letter] ++ u) = some (c, u) := by
  simp only [List.cons_append, List.nil_append, readQuotedChar, if_true, hread]
  rw [← hn, Char.ofNat_toNat]

/-- The written form of a character reads back as the character, whatever follows it. -/
theorem readQuotedChar_quoteChar (c : Char) (u : List Char) :
    readQuotedChar (quoteChar c ++ u) = some (c, u) := by
  have hcode := toNat_lt_codeSpace c
  unfold quoteChar quoteCharWith
  by_cases hquote : c = '"'
  · subst hquote
    rfl
  rw [if_neg hquote]
  by_cases hback : c = '\\'
  · subst hback
    rfl
  rw [if_neg hback]
  by_cases hprint : isPrintable c = true
  · rw [if_pos (by simp only [hprint, Bool.not_false, Bool.true_or, Bool.and_self])]
    simp only [List.singleton_append, readQuotedChar, hquote, hback, if_false]
  rw [if_neg (by simp only [hprint, Bool.false_and, Bool.false_eq_true, not_false_eq_true])]
  dsimp only
  by_cases h7 : c.toNat = 7
  · rw [if_pos h7]
    exact readQuotedChar_letter h7 (fun rest => by simp [readEscape]) u
  rw [if_neg h7]
  by_cases h8 : c.toNat = 8
  · rw [if_pos h8]
    exact readQuotedChar_letter h8 (fun rest => by simp [readEscape]) u
  rw [if_neg h8]
  by_cases h12 : c.toNat = 12
  · rw [if_pos h12]
    exact readQuotedChar_letter h12 (fun rest => by simp [readEscape]) u
  rw [if_neg h12]
  by_cases h10 : c.toNat = 10
  · rw [if_pos h10]
    exact readQuotedChar_letter h10 (fun rest => by simp [readEscape]) u
  rw [if_neg h10]
  by_cases h13 : c.toNat = 13
  · rw [if_pos h13]
    exact readQuotedChar_letter h13 (fun rest => by simp [readEscape]) u
  rw [if_neg h13]
  by_cases h9 : c.toNat = 9
  · rw [if_pos h9]
    exact readQuotedChar_letter h9 (fun rest => by simp [readEscape]) u
  rw [if_neg h9]
  by_cases h11 : c.toNat = 11
  · rw [if_pos h11]
    exact readQuotedChar_letter h11 (fun rest => by simp [readEscape]) u
  rw [if_neg h11]
  by_cases hsmall : (c.toNat < 0x20 || c.toNat = 0x7F) = true
  · rw [if_pos hsmall]
    have hbyte : c.toNat < 16 ^ 2 := by
      simp only [Bool.or_eq_true, decide_eq_true_eq] at hsmall
      omega
    exact readQuotedChar_code (by decide) hbyte (fun rest => by simp [readEscape]) u
  rw [if_neg hsmall]
  by_cases hbasic : c.toNat < 0x10000
  · rw [if_pos hbasic]
    exact readQuotedChar_code (by decide) (by omega) (fun rest => by simp [readEscape]) u
  rw [if_neg hbasic]
  exact readQuotedChar_code (by decide) (by omega) (fun rest => by simp [readEscape]) u

/-! ## Quoted text -/

/-- The written characters before a closing quote, and what follows the quote, are determined by
the whole: read token by token, both sides meet the same characters and then the same bare
quote, which no written character begins with. -/
theorem quoteChars_append_quote {cs ds x y : List Char}
    (h : quoteChars cs ++ '"' :: x = quoteChars ds ++ '"' :: y) : cs = ds ∧ x = y := by
  induction cs generalizing ds with
  | nil =>
    cases ds with
    | nil => exact ⟨rfl, by simpa [quoteChars] using h⟩
    | cons d ds =>
      have hread := congrArg readQuotedChar h
      simp [quoteChars, List.append_assoc, readQuotedChar_quoteChar] at hread
  | cons c cs ih =>
    cases ds with
    | nil =>
      have hread := congrArg readQuotedChar h
      simp [quoteChars, List.append_assoc, readQuotedChar_quoteChar] at hread
    | cons d ds =>
      have hread := congrArg readQuotedChar h
      simp only [quoteChars, List.flatMap_cons, List.append_assoc, readQuotedChar_quoteChar,
        Option.some.injEq, Prod.mk.injEq] at hread
      obtain ⟨rfl, hrest⟩ := hread
      obtain ⟨rfl, rfl⟩ := ih hrest
      exact ⟨rfl, rfl⟩

theorem toList_quote (s : String) : (quote s).toList = '"' :: quoteChars s.toList ++ ['"'] := by
  simp [quote]

/-- A quoted text followed by anything determines the text and what follows. -/
theorem quote_append_inj {s t : String} {x y : List Char}
    (h : (quote s).toList ++ x = (quote t).toList ++ y) : s = t ∧ x = y := by
  simp only [toList_quote, List.cons_append, List.append_assoc, List.cons.injEq, true_and] at h
  obtain ⟨hs, hxy⟩ := quoteChars_append_quote h
  exact ⟨String.toList_inj.1 hs, hxy⟩

end DashboardHarness.Text
