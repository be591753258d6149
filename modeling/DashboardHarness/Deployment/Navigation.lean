import DashboardHarness.Browser.Page
import DashboardHarness.Settings.Basic

/-!
# Moving through the deployment

The steps that every workflow is built from: open a page of the deployment and let the network
settle, click an element once it is visible, and ask whether an element shows up in time, where a
timeout is an answer and not a failure.

Main definitions:

- `openPage`: opening a page of the deployment at the URL the settings resolve, then letting the
  network settle.
- `firstVisible`: the label of the first candidate that shows up in time.
-/

namespace DashboardHarness.Deployment

open Page

/-- Waits for the network to settle. -/
def settle : Browse Unit :=
  stage "wait for network idle" waitNetworkIdle

/-- Opens a page of the deployment and lets the network settle. -/
def openPage (s : Settings) (path : String) : Browse Unit := do
  let target := s.resolve path
  stage ("navigate to " ++ target) (navigate target)
  settle

/-- Waits for an element, clicks it and lets the network settle. -/
def clickVisible (target : Selector) : Browse Unit := do
  waitVisible target
  click target {}
  settle

/-- Whether an element shows up in time; a timeout answers `false`, other failures stay. -/
def visibleWithin (target : Selector) : Browse Bool :=
  tryCatch (do waitVisible target; pure true) fun e =>
    if e.hasKind .timeout then pure false else throw e

/-- The label of the first candidate that shows up in time, or none. -/
def firstVisible : List (String × Selector) → Browse (Option String)
  | [] => pure none
  | (label, target) :: rest => do
    if ← visibleWithin target then return some label
    firstVisible rest

end DashboardHarness.Deployment
