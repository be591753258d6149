import DashboardHarness.Browser.Script
import DashboardHarness.Keyed

/-!
# Page traces

What a scripted page records while it is driven, in order: navigations, element clicks with
their options as given, pointer moves and pointer clicks, the last value filled into each
element, scrolls, pauses in nanoseconds, how often each element's visibility and box were asked
for, and how often the page waited for the network and was closed.

Main definitions:

- `Trace`: what a scripted page records of the calls made on it.
-/

namespace DashboardHarness

/-- A click on an element, with the options as given. -/
structure ClickRecord where
  /-- The element clicked. -/
  selector : Selector
  /-- The options as given. -/
  options : ClickOptions
  deriving Inhabited

/-- A click of the pointer at a point, with the options as given. -/
structure PointerClickRecord where
  /-- Where the pointer clicked. -/
  point : Point
  /-- The options as given. -/
  options : ClickOptions
  deriving Inhabited

/-- Everything a scripted page recorded. -/
structure Trace where
  /-- URLs navigated to. -/
  navigations : Array String := #[]
  /-- Element clicks. -/
  clicks : Array ClickRecord := #[]
  /-- Pointer moves. -/
  moves : Array Point := #[]
  /-- Pointer clicks. -/
  pointerClicks : Array PointerClickRecord := #[]
  /-- The last value filled into each element key. -/
  fills : List (String × String) := []
  /-- Elements scrolled into view. -/
  scrolls : Array Selector := #[]
  /-- Pauses, in nanoseconds. -/
  sleeps : Array Int := #[]
  /-- Visibility checks per element key. -/
  visibilityChecks : List (String × Nat) := []
  /-- Box queries per element key. -/
  boxQueries : List (String × Nat) := []
  /-- Waits for network idle. -/
  idleWaits : Nat := 0
  /-- Closes. -/
  closes : Nat := 0
  deriving Inhabited

namespace Trace

/-- The trace with a pointer move appended. -/
def recordMove (t : Trace) (p : Point) : Trace := { t with moves := t.moves.push p }

@[simp] theorem recordMove_moves (t : Trace) (p : Point) :
    (t.recordMove p).moves = t.moves.push p := rfl

end Trace

end DashboardHarness
