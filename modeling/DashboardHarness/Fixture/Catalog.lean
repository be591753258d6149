import DashboardHarness.Dashboard.Basic

/-!
# The dashboards the imitation application starts with

Seven dashboards, of which the sixth, `Test FILTER JS`, holds the charts that the workflows
exercise: four map charts with point features that emit cross-filters on the columns `cat`,
`objectid` and `zone`, and two table charts listing features by `objectid`. At the default page
size of five it sits on the second page of the list.

Main definitions:

- `catalog`: the dashboards the application starts with, in list order, among them the one with
  the map charts and cross-filters.
-/

namespace DashboardHarness.Fixture

open Dashboard

/-- The title of the dashboard with the map charts and cross-filters. -/
def filterDashboardTitle : String := "Test FILTER JS"

/-- A feature of a map or table chart. -/
def feature (label column value : String) (x y radius : Float) : Feature :=
  { label := label, column := column, value := value, x := x, y := y, radius := radius }

/-- The dashboard with the map charts and cross-filters. -/
def filterDashboard : Board :=
  { title := filterDashboardTitle
    charts := [
      { elementId := 1314, name := "Test POINT Cartodiagram JS", kind := mapKind
        features := [feature "Punkt 1" "cat" "a" 0.6 0.6 6, feature "Punkt 2" "cat" "b" 0.4 0.45 6,
          feature "Punkt 3" "cat" "c" 0.55 0.4 6] },
      { elementId := 325, name := "TEST PIE JS", kind := mapKind
        features := [feature "Kategorie A" "cat" "a" 0.25 0.5 40,
          feature "Kategorie B" "cat" "b" 0.75 0.5 40] },
      { elementId := 206, name := "JS Knoten Carto", kind := mapKind
        features := [feature "Knoten 7" "objectid" "7" 0.45 0.55 8,
          feature "Knoten 9" "objectid" "9" 0.6 0.35 8] },
      { elementId := 248, name := "Test_Knoten", kind := mapKind
        features := [feature "Zone Nord" "zone" "nord" 0.5 0.3 10,
          feature "Zone Süd" "zone" "sued" 0.5 0.7 10] },
      { elementId := 412, name := "JS Knoten", kind := tableKind
        features := [feature "Knoten 7" "objectid" "7" 0 0 0, feature "Knoten 9" "objectid" "9" 0 0 0] },
      { elementId := 413, name := "Test BRW Zonen", kind := tableKind
        features := [feature "BRW 1" "objectid" "7" 0 0 0, feature "BRW 2" "objectid" "11" 0 0 0] }] }

/-- The dashboards the application starts with, in list order. -/
def catalog : List Board :=
  [{ title := "Bevölkerung" }, { title := "Fahrradzählung" }, { title := "Grünflächen" },
   { title := "Luftqualität" }, { title := "Parkplätze" }, filterDashboard,
   { title := "Verkehrsunfälle" }]

end DashboardHarness.Fixture
