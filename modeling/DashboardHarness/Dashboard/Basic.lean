/-!
# Dashboards, charts and map features

The records that a dashboard deployment shows: a dashboard with a slug, a title and a list
position holds charts; a chart is drawn in a container addressed by its element id, and a map
chart holds point features placed by fractions of its canvas.

Main definitions:

- `Board`, `Chart`, `Feature`: a dashboard with its charts and their features.
- `RecordId`: the id of a row, a text or missing.
-/

namespace DashboardHarness.Dashboard

/-- The id of a stored record: a text given by whoever made the record, or the `n`th id that the
store generated for a record given without one. The empty text stands for no id at all. -/
inductive RecordId
  | text (value : String)
  | generated (serial : Nat)
  deriving DecidableEq, Inhabited, Repr

/-- The text of an id; a generated one is shown as a placeholder, since its text is random. -/
def RecordId.shown : RecordId → String
  | .text value => value
  | .generated _ => "<generated>"

/-- Whether no id was given. -/
def RecordId.isMissing : RecordId → Bool
  | .text value => value.isEmpty
  | .generated _ => false

/-- A point drawn on a map chart; `x` and `y` are fractions of the canvas size. -/
structure Feature where
  /-- The stored id. -/
  id : RecordId := .text ""
  /-- The id of the chart that draws it. -/
  chartId : RecordId := .text ""
  /-- The label shown in the tooltip. -/
  label : String := ""
  /-- The column the feature filters on. -/
  column : String := ""
  /-- The value the feature filters for. -/
  value : String := ""
  /-- The horizontal position as a fraction of the width. -/
  x : Float := 0
  /-- The vertical position as a fraction of the height. -/
  y : Float := 0
  /-- The drawn radius. -/
  radius : Float := 0
  deriving Inhabited, Repr

/-- The kind of chart that draws a map canvas. -/
def mapKind : String := "map"

/-- The kind of chart that draws a result table, and the kind of a chart stored without one. -/
def tableKind : String := "table"

/-- A chart on a dashboard. -/
structure Chart where
  /-- The stored id. -/
  id : RecordId := .text ""
  /-- The id of the dashboard that shows it. -/
  dashboardId : RecordId := .text ""
  /-- The number in the id of its container element. -/
  elementId : Int := 0
  /-- The chart name. -/
  name : String := ""
  /-- The kind of chart, `map` or `table`. -/
  kind : String := ""
  /-- The place of the chart on its dashboard. -/
  position : Int := 0
  /-- The features of a map chart. -/
  features : List Feature := []
  deriving Inhabited, Repr

/-- A dashboard and its charts. -/
structure Board where
  /-- The stored id. -/
  id : RecordId := .text ""
  /-- The URL slug. -/
  slug : String := ""
  /-- The title. -/
  title : String := ""
  /-- The place on the dashboard list. -/
  position : Int := 0
  /-- The charts. -/
  charts : List Chart := []
  deriving Inhabited, Repr

/-- Whether the chart draws a map canvas. -/
def Chart.isMap (c : Chart) : Bool := c.kind == mapKind

/-- The CSS selector of the chart's rendered container. -/
def Chart.containerSelector (c : Chart) : String := "#chart-id-" ++ toString c.elementId

end DashboardHarness.Dashboard
