import DashboardHarness.Deployment.Landmarks
import DashboardHarness.Deployment.Navigation

/-!
# Charts and cross-filters

A shift-click on a chart canvas sets a cross-filter from the clicked datum; a shift right-click
opens the chart's context menu, from which the cross-filter is removed. The filter bar lists the
cross-filters and can dismiss them. A chart's menu opens its tabular view, whose rows can be
counted, and its query view, which shows whether the query is filtered.

Main definitions:

- `ChartClick.validate`: a chart click needs a container and a canvas index that is not
  negative.
- `shiftClickChart`, `removeCrossFilter`: setting a cross-filter by a shift-click on a chart, and
  removing it through the chart's context menu.
- `chartQueryFiltered`: whether a named chart's query is a filtered select.
-/

namespace DashboardHarness.Deployment

open Page

/-- A pointer click on a chart canvas. -/
structure ChartClick where
  /-- The chart container, for example `#chart-id-325`. -/
  container : String := ""
  /-- Which of the container's canvases to click. -/
  canvasIndex : Int := 0
  /-- The position in the canvas box, or none for its centre. -/
  position : Option Point := none
  deriving Inhabited

/-- A chart click needs a container and a canvas index that is not negative. -/
def ChartClick.validate (c : ChartClick) : Except Failure Unit :=
  if Text.isBlankText c.container then
    .error (.detail .invalidChartClick "container selector is required")
  else if c.canvasIndex < 0 then
    .error (.detail .invalidChartClick "canvas index must not be negative")
  else .ok ()

/-- The canvas that a chart click addresses. -/
def ChartClick.canvas (c : ChartClick) : Selector :=
  (chartCanvases c.container).nth c.canvasIndex

/-- Waits until every named chart is rendered. -/
def waitForCharts (names : List String) : Browse Unit :=
  names.forM fun name => stage ("wait for chart " ++ Text.quote name) (waitVisible (chartByName name))

/-- Opens the filter bar. -/
def openFilterBar : Browse Unit :=
  stage "open filter bar" (clickVisible filterBarToggle)

/-- Expands the filter bar. -/
def expandFilterBar : Browse Unit :=
  stage "expand filter bar" (clickVisible filterBarExpand)

/-- Whether the filter bar shows that it is empty. -/
def filterBarEmpty : Browse Bool :=
  isVisible filterBarEmptyDescription

/-- Whether the dashboard shows an error banner. -/
def errorAlertShown : Browse Bool :=
  isVisible errorAlert

/-- Clicks a chart canvas with shift held and the given button, then lets the network settle. -/
def clickChart (c : ChartClick) (button : String) : Browse Unit := do
  match c.validate with
  | .error f => throw f
  | .ok () => pure ()
  stage ("click chart " ++ c.container)
    (click c.canvas { button := button, modifiers := ["Shift"], position := c.position })
  settle

/-- Sets a cross-filter by a shift-click on a chart. -/
def shiftClickChart (c : ChartClick) : Browse Unit :=
  clickChart c "left"

/-- Removes a chart's cross-filter through its context menu. -/
def removeCrossFilter (c : ChartClick) : Browse Unit := do
  clickChart c "right"
  stage "remove cross-filter" (clickVisible removeCrossFilterItem)

/-- Dismisses the cross-filter listed at an index in the filter bar. -/
def dismissCrossFilter (index : Int) : Browse Unit :=
  stage "dismiss cross-filter" (clickVisible (crossFilterDismissIcons.nth index))

/-- Waits for a chart container and counts its canvases. -/
def chartCanvasCount (container : String) : Browse Int := do
  if Text.isBlankText container then
    throw (.detail .invalidChartClick "container selector is required")
  stage ("wait for chart " ++ container) (waitVisible ((Selector.ofCss container).nth 0))
  count (chartCanvases container)

/-- Opens a view of a named chart from its menu. -/
def openChartView (name : String) (view : Selector) : Browse Unit := do
  if Text.isBlankText name then throw (.detail .invalidChartClick "chart name is required")
  stage ("open menu of chart " ++ Text.quote name) (click (chartMenu name) {})
  stage ("open " ++ view.render ++ " of chart " ++ Text.quote name) (clickVisible view)

/-- Closes the open chart view and lets the network settle. -/
def closeChartView : Browse Unit := do
  stage "close chart view" (click modalCloseButton {})
  settle

/-- Counts the rows of a named chart's tabular view. -/
def chartTableRowCount (name : String) : Browse Int := do
  openChartView name viewAsTableButton
  stage "wait for result table" (waitVisible resultTable)
  let rows ← count resultTableRows
  closeChartView
  return rows

/-- Whether a named chart's query is a filtered select. -/
def chartQueryFiltered (name : String) : Browse Bool := do
  openChartView name viewQueryButton
  let selectShown ← visibleWithin querySelectClause
  let whereShown ← if selectShown then isVisible queryWhereClause else pure false
  closeChartView
  return selectShown && whereShown

end DashboardHarness.Deployment
