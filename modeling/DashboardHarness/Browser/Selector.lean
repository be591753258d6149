import DashboardHarness.Failure
import DashboardHarness.Text.Blank
import DashboardHarness.Text.Quoted

/-!
# Selectors

A selector addresses page elements by one strategy: a CSS expression, a visible text, or an
ARIA role with an optional accessible name. It can narrow the matches to elements that contain a
text and pick one match by its zero-based index. Its text form names the strategy in use and the
narrowing, and a scripted page keys its elements by that text.

Main results:

- `Selector.validate_eq_ok_iff`: a selector is valid exactly when one strategy is non-blank and
  the index is not negative.
- `Selector.render_css`: a selector with a CSS expression is written as that expression, then
  its narrowing.
-/

namespace DashboardHarness

/-- An element address: one strategy, an optional text filter and a match index. -/
structure Selector where
  /-- A CSS expression. -/
  css : String := ""
  /-- A text that the element shows. -/
  text : String := ""
  /-- An ARIA role. -/
  role : String := ""
  /-- The accessible name that goes with the role. -/
  name : String := ""
  /-- A text that the matched elements must contain. -/
  hasText : String := ""
  /-- The zero-based index of the match. -/
  index : Int := 0
  deriving DecidableEq, Repr, Inhabited

namespace Selector

/-- Elements matching a CSS expression. -/
def ofCss (expression : String) : Selector := { css := expression }

/-- The smallest elements whose text contains the given text. -/
def ofText (text : String) : Selector := { text := text }

/-- Elements with an ARIA role and, when the name is not empty, that accessible name. -/
def ofRole (role name : String) : Selector := { role := role, name := name }

/-- The selector narrowed to elements that contain a text. -/
def withText (s : Selector) (text : String) : Selector := { s with hasText := text }

/-- The selector that picks the match at an index. -/
def nth (s : Selector) (index : Int) : Selector := { s with index := index }

/-- The strategy part of the text form: the CSS expression, else the role with its name, else
the quoted text, else a placeholder. -/
def strategyText (s : Selector) : String :=
  if s.css ≠ "" then s.css
  else if s.role ≠ "" then
    "role=" ++ s.role ++ (if s.name ≠ "" then "[name=" ++ Text.quote s.name ++ "]" else "")
  else if s.text ≠ "" then "text=" ++ Text.quote s.text
  else "<empty>"

/-- The narrowing part of the text form: the quoted text filter and the index, each when set. -/
def narrowingText (s : Selector) : String :=
  (if s.hasText ≠ "" then " >> has-text=" ++ Text.quote s.hasText else "") ++
    (if s.index ≠ 0 then " >> nth=" ++ toString s.index else "")

/-- The text form of a selector, which keys scripted elements. -/
def render (s : Selector) : String :=
  s.strategyText ++ s.narrowingText

/-- The number of strategies that are not blank. -/
def strategyCount (s : Selector) : Nat :=
  ([s.css, s.text, s.role].filter fun t => !Text.isBlankText t).length

/-- A selector is usable when exactly one strategy is non-blank and its index is not negative;
the failure names the selector or the negative index. -/
def validate (s : Selector) : Except Failure Unit :=
  if s.strategyCount ≠ 1 then .error (.detail .invalidSelector s.render)
  else if s.index < 0 then .error (.detail .invalidSelector ("negative index " ++ toString s.index))
  else .ok ()

theorem validate_eq_ok_iff (s : Selector) :
    s.validate = .ok () ↔ s.strategyCount = 1 ∧ 0 ≤ s.index := by
  unfold validate
  by_cases hcount : s.strategyCount = 1
  · by_cases hindex : s.index < 0
    · simp [hcount, hindex]
    · simp [hcount, hindex]
      omega
  · simp [hcount]

theorem render_css (s : Selector) (h : s.css ≠ "") : s.render = s.css ++ s.narrowingText := by
  simp [render, strategyText, h]

end Selector

end DashboardHarness
