import DashboardHarness.Browser.Geometry

/-!
# Clicks and interaction outcomes

How a click is made (button, held modifiers, position inside the element, click count) and how an
interaction reached its element. The options are kept as given: a page that records a click
records exactly these.

Main definitions:

- `ClickOptions`: how a click is made; the empty button and a count of zero stand for a single
  left click.
- `Outcome.name`: the name of an outcome number, `none` for any number but the two outcomes.
-/

namespace DashboardHarness

/-- How a click is made. The empty button and a count of zero stand for a single left click. -/
structure ClickOptions where
  /-- The pointer button, `left`, `right` or `middle`, or empty for the default. -/
  button : String := ""
  /-- The keyboard modifiers held during the click. -/
  modifiers : List String := []
  /-- The position inside the element, or none for its centre. -/
  position : Option Point := none
  /-- The number of clicks. -/
  clickCount : Int := 0
  deriving Inhabited, Repr

/-- How an interaction reached its element. -/
inductive Outcome where
  /-- The element was ready at the first attempt. -/
  | acted
  /-- The element needed a scroll into view first. -/
  | actedAfterScroll
  deriving DecidableEq, Repr

/-- The number of an outcome. -/
def Outcome.code : Outcome → Int
  | .acted => 1
  | .actedAfterScroll => 2

/-- The name of an outcome number: `acted`, `acted_after_scroll`, or `none` for any other. -/
def Outcome.name (code : Int) : String :=
  if code = 1 then "acted" else if code = 2 then "acted_after_scroll" else "none"

end DashboardHarness
