import DashboardHarness.Deployment.Landmarks
import DashboardHarness.Deployment.Navigation
import DashboardHarness.Text.Search

/-!
# Opening a dashboard

The dashboard list is paged. Opening a dashboard by name checks that the list page is the one
expected, then looks for the name on each list page in turn and follows it when it shows. The
search ends at the last page, where the next-page control is missing or disabled, or after the
configured number of pages, whichever comes first.

Main results:

- `listBound_pos`: the search is given at least one page.
-/

namespace DashboardHarness.Deployment

open Page

/-- The path of the dashboard list. -/
def dashboardListPath : String := "dashboard/list/?"

/-- Checks that the browser shows the dashboard list: the title of the deployment and the list
heading. -/
def requireListPage : Browse Unit := do
  let title ← readTitle
  if title ≠ applicationTitle then
    throw (.detail .unexpectedPage ("title " ++ Text.quote title))
  stage "wait for dashboard list header" (waitVisible dashboardListHeader)
  let header ← innerText dashboardListHeader
  if Text.trimBlank header ≠ "Dashboards" then
    throw (.detail .unexpectedPage ("header " ++ Text.quote header))

/-- Whether the list page is the last one: no next-page control, or a disabled one. -/
def isLastListPage : Browse Bool := do
  let controls ← count nextPageControl
  if controls = 0 then return true
  let classes ← readAttribute nextPageControl "class"
  return Text.contains classes "disabled"

/-- The number of list pages the search may visit: the configured limit, at least one. -/
def listBound (s : Settings) : Nat :=
  max s.maxDashboardPages.toNat 1

/-- Looks for the dashboard on list pages from `listPage` on, at most `fuel` of them. -/
def searchList (s : Settings) (name : String) : Nat → Nat → Browse Unit
  | 0, _ => pure ()
  | fuel + 1, listPage => do
    let link := dashboardLink name
    if ← isVisible link then
      stage "open dashboard" (click link {})
      stage "wait for dashboard title" (waitVisible dashboardTitle)
      return
    if ← isLastListPage then
      throw (.detail .dashboardNotListed
        (Text.quote name ++ " not listed on " ++ toString listPage ++ " pages"))
    if (listPage : Int) ≥ s.maxDashboardPages then
      throw (.detail .dashboardNotListed
        (Text.quote name ++ " not found within " ++ toString s.maxDashboardPages ++ " pages"))
    stage "advance dashboard list" (click nextPageControl {})
    settle
    searchList s name fuel (listPage + 1)

/-- Opens the dashboard list, checks it, and opens the named dashboard from it. -/
def openDashboard (s : Settings) (name : String) : Browse Unit := do
  openPage s dashboardListPath
  requireListPage
  searchList s name (listBound s) 1

theorem listBound_pos (s : Settings) : 0 < listBound s := by
  unfold listBound
  omega

end DashboardHarness.Deployment
