/-!
# Searching text

Whether one text occurs inside another, and the position-independent tests built on it.

Main definitions:

- `contains`, `startsWith`: whether a text occurs in another, and whether it starts it.
-/

namespace DashboardHarness.Text

/-- Whether `part` occurs in `s` as a contiguous run. -/
def containsChars (part : List Char) : List Char → Bool
  | [] => part.isEmpty
  | s@(_ :: rest) => part.isPrefixOf s || containsChars part rest

/-- Whether `part` occurs in `s`. -/
def contains (s part : String) : Bool :=
  containsChars part.toList s.toList

/-- Whether `s` starts with `part`. -/
def startsWith (s part : String) : Bool :=
  part.toList.isPrefixOf s.toList

end DashboardHarness.Text
