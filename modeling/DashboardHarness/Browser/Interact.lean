import DashboardHarness.Browser.Page

/-!
# Making an element interactable

An action on an element is tried once after waiting for the element. When the wait or the
action fails because the element timed out, was not visible or was not found, the element is
scrolled into view, awaited again, and the action is tried once more; any other failure ends the
attempt at once.

Main results:

- `ensureInteractable_invalid`: an invalid selector fails before the page is asked anything.
-/

namespace DashboardHarness

open Page

/-- Failures that a scroll into view may cure. -/
def Failure.isInteraction (f : Failure) : Bool :=
  f.hasKind .timeout || f.hasKind .elementNotVisible || f.hasKind .elementNotFound

/-- Waits for an element and runs an action on it, with one scroll and retry when the element
was out of reach. -/
def ensureInteractable (s : Selector) (action : Browse Unit) : Browse Outcome := do
  match s.validate with
  | .error f => throw f
  | .ok () => pure ()
  let first ← tryCatch (do waitVisible s; action; pure none) fun e => pure (some e)
  match first with
  | none => return .acted
  | some f =>
    if !f.isInteraction then throw f
    mapFailure (.context ("scroll " ++ s.render ++ " into view after " ++ f.message))
      (scrollIntoView s)
    waitVisible s
    action
    return .actedAfterScroll

/-- The action that clicks an element with options. -/
def clickAction (s : Selector) (options : ClickOptions) : Browse Unit :=
  click s options

theorem ensureInteractable_invalid (s : Selector) (f : Failure) (h : s.validate = .error f)
    (action : Browse Unit) (p : Page) :
    ((ensureInteractable s action).run p) = (.error f, p) := by
  simp [ensureInteractable, h]
  rfl

end DashboardHarness
