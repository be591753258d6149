import DashboardHarness.Dashboard.Basic
import DashboardHarness.Dashboard.Slug
import DashboardHarness.Failure
import DashboardHarness.Text.Blank
import DashboardHarness.Text.Quoted

/-!
# The dashboard store

The store keeps three tables in insertion order: dashboards, charts and map features. A row of
one table keeps the id of its parent instead of the children themselves, so a stored dashboard
has no charts and a stored chart no features; queries put them back together.

Seeding stores a list of dashboards as one transaction. A dashboard without a title stops it;
missing ids are generated, a missing slug comes from the title, a missing position is the
dashboard's place after the ones stored before, and a chart gets the kind `table` and its place
on the dashboard when they are missing. A dashboard whose slug or id is taken fails with the
database's constraint message, checked in that order, and so does a feature with a NaN
coordinate, which the database cannot hold. Of the charts of a dashboard, and of the features
of the charts kept, only the first with an id is stored. A chart or feature whose id is taken
by a stored row is not stored again: the stored row moves to the new parent, the way an insert
that updates the parent column on a key conflict does. A seed that fails leaves the store as it
was.

Main definitions:

- `Store`: the tables of dashboards, charts and features, with the number of ids generated.
- `Store.seed`: storing dashboards in order as one transaction, the new store or the first
  failure with nothing stored.
- `Store.afterSeed`: the store after a seeding call, unchanged when the call fails.
-/

namespace DashboardHarness.Store

open Dashboard

/-- The three tables, in insertion order, and how many ids the store has generated. -/
structure Store where
  boards : List Board := []
  charts : List Chart := []
  features : List Feature := []
  generatedIds : Nat := 0

/-- The id itself, or a fresh one when none was given. -/
def fillId (id : RecordId) (fresh : Nat) : RecordId × Nat :=
  if id.isMissing then (.generated fresh, fresh + 1) else (id, fresh)

/-- A double as a real column keeps it: a negative zero is stored as zero, since an integral
value is kept as an integer. -/
def storedReal (x : Float) : Float := if x == 0 then 0 else x

/-- Gives each feature an id and the id of its chart. -/
def prepareFeatures (chartId : RecordId) (fresh : Nat) : List Feature → List Feature × Nat
  | [] => ([], fresh)
  | f :: fs =>
    let (id, fresh) := fillId f.id fresh
    let (rest, fresh) := prepareFeatures chartId fresh fs
    ({ f with id := id, chartId := chartId, x := storedReal f.x, y := storedReal f.y,
               radius := storedReal f.radius } :: rest, fresh)

/-- Gives each chart an id, the id of its dashboard, a kind and a place, starting at `place`,
and prepares its features. -/
def prepareCharts (boardId : RecordId) (place : Int) (fresh : Nat) :
    List Chart → List Chart × Nat
  | [] => ([], fresh)
  | c :: cs =>
    let (id, fresh) := fillId c.id fresh
    let (features, fresh) := prepareFeatures id fresh c.features
    let (rest, fresh) := prepareCharts boardId (place + 1) fresh cs
    ({ c with id := id, dashboardId := boardId,
               kind := if c.kind.isEmpty then tableKind else c.kind,
               position := if c.position = 0 then place else c.position,
               features := features } :: rest, fresh)

/-- Fills in what a dashboard was given without: its id, its slug, its position `place`, and
what its charts and features lack. -/
def prepareBoard (place : Int) (fresh : Nat) (b : Board) : Board × Nat :=
  let (id, fresh) := fillId b.id fresh
  let (charts, fresh) := prepareCharts id 1 fresh b.charts
  ({ b with id := id,
            slug := if b.slug.isEmpty then slugOfTitle b.title else b.slug,
            position := if b.position = 0 then place else b.position,
            charts := charts }, fresh)

/-- Rows with a parent: replaces the parent of the row whose id is taken by `id`, or appends
`row` when no row has that id. -/
def moveTo {α : Type} (idOf : α → RecordId) (setParent : α → α → α) (rows : List α) (row : α) :
    List α :=
  if rows.any (fun r => idOf r == idOf row) then
    rows.map fun r => if idOf r == idOf row then setParent r row else r
  else rows ++ [row]

/-- Stores chart rows; a taken id moves the stored chart to the new dashboard. -/
def storeCharts (rows : List Chart) (charts : List Chart) : List Chart :=
  charts.foldl (moveTo Chart.id fun r c => { r with dashboardId := c.dashboardId }) rows

/-- Stores feature rows; a taken id moves the stored feature to the new chart. -/
def storeFeatures (rows : List Feature) (features : List Feature) : List Feature :=
  features.foldl (moveTo Feature.id fun r f => { r with chartId := f.chartId }) rows

/-- The message of the database when a unique column already holds a value. -/
def uniqueViolation (column : String) (code : Nat) : Failure :=
  .raised ("constraint failed: UNIQUE constraint failed: " ++ column ++ " (" ++ toString code ++ ")")

/-- The message of the database when a column that may not be empty gets no value. -/
def notNullViolation (column : String) : Failure :=
  .raised ("constraint failed: NOT NULL constraint failed: " ++ column ++ " (1299)")

/-- The rows whose id no earlier row has: one insert statement writes each id once. -/
def firstOfEachId {α : Type} (idOf : α → RecordId) (rows : List α) : List α :=
  let step := fun (acc : List α) (row : α) =>
    if acc.any (fun r => idOf r == idOf row) then acc else acc ++ [row]
  rows.foldl step []

/-- The first coordinate column of a feature that holds NaN, which the database stores as no
value. -/
def Feature.missingColumn (f : Feature) : Option String :=
  if f.x.isNaN then some "x" else if f.y.isNaN then some "y"
  else if f.radius.isNaN then some "radius" else none

/-- Stores one prepared dashboard, then its charts with one statement, then the features of the
charts stored with another; a chart or feature whose id came earlier in its statement is left
out, with the features of such a chart. -/
def insertBoard (st : Store) (b : Board) : Except Failure Store :=
  if st.boards.any (·.slug == b.slug) then .error (uniqueViolation "dashboards.slug" 2067)
  else if st.boards.any (·.id == b.id) then .error (uniqueViolation "dashboards.id" 1555)
  else
    let charts := firstOfEachId Chart.id b.charts
    let features := firstOfEachId Feature.id (charts.flatMap (·.features))
    match features.findSome? Feature.missingColumn with
    | some column => .error (notNullViolation ("map_features." ++ column))
    | none =>
      .ok { st with
        boards := st.boards ++ [{ b with charts := [] }]
        charts := storeCharts st.charts (charts.map fun c => { c with features := [] })
        features := storeFeatures st.features features }

/-- Stores dashboards from index `index` on, the first of them at place `place`. -/
def seedFrom (index : Nat) (place : Int) (st : Store) : List Board → Except Failure Store
  | [] => .ok st
  | b :: bs =>
    if Text.isBlankText b.title then
      .error (.detail .invalidDashboard ("dashboard " ++ toString index ++ " has no title"))
    else
      let (b, fresh) := prepareBoard place st.generatedIds b
      match insertBoard { st with generatedIds := fresh } b with
      | .error e => .error (.context ("seed dashboard " ++ Text.quote b.title) e)
      | .ok st => seedFrom (index + 1) (place + 1) st bs

/-- Stores the dashboards in order as one transaction: the new store, or the first failure with
nothing stored. -/
def Store.seed (st : Store) (boards : List Board) : Except Failure Store :=
  seedFrom 0 (st.boards.length + 1) st boards

/-- The store after a seeding call: the seeded store, or the store as it was when the call fails,
since the transaction is rolled back. -/
def Store.afterSeed (st : Store) (boards : List Board) : Store :=
  match st.seed boards with
  | .ok seeded => seeded
  | .error _ => st

end DashboardHarness.Store
