/-!
# Blank characters and trimming

The blank characters are the Unicode white space: the ASCII tab, line feed, vertical tab, form
feed, carriage return and space, the next-line control U+0085, and the space separators, line
separator and paragraph separator of Unicode. Trimming removes blanks from both ends of a text;
the other trims remove one given character.

Main results:

- `trimStart_head`: after a trim from the start the text does not start with the trimmed
  character.
-/

namespace DashboardHarness.Text

/-- Unicode white space: the six ASCII blanks, U+0085 and the space, line and paragraph
separators. -/
def isBlank (c : Char) : Bool :=
  let n := c.toNat
  (9 ≤ n && n ≤ 13) || n == 32 || n == 0x85 || n == 0xA0 || n == 0x1680 ||
    (0x2000 ≤ n && n ≤ 0x200A) || n == 0x2028 || n == 0x2029 || n == 0x202F ||
    n == 0x205F || n == 0x3000

/-- The characters without the blanks at either end. -/
def trimBlankList (cs : List Char) : List Char :=
  ((cs.dropWhile isBlank).reverse.dropWhile isBlank).reverse

/-- A text without the blanks at either end. -/
def trimBlank (s : String) : String :=
  String.ofList (trimBlankList s.toList)

/-- Whether a text holds only blanks (the empty text does). -/
def isBlankText (s : String) : Bool :=
  s.toList.all isBlank

/-- A text without the leading copies of one character. -/
def trimStart (c : Char) (s : String) : String :=
  String.ofList (s.toList.dropWhile (· == c))

/-- A text without the trailing copies of one character. -/
def trimEnd (c : Char) (s : String) : String :=
  String.ofList ((s.toList.reverse.dropWhile (· == c)).reverse)

/-- After a trim from the start the text does not start with the trimmed character. -/
theorem trimStart_head (c : Char) (s : String) :
    ∀ d ∈ (trimStart c s).toList.head?, (d == c) = false := by
  intro d hd
  have h := List.head?_dropWhile_not (· == c) s.toList
  simp only [trimStart, String.toList_ofList] at hd
  rw [hd] at h
  exact h

end DashboardHarness.Text
