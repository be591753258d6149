import DashboardHarness.Deployment.Landmarks
import DashboardHarness.Deployment.Navigation
import DashboardHarness.Browser.Interact
import DashboardHarness.Text.Search

/-!
# Database connections and datasets

Registering the WFS endpoint as a database goes through the connection form: pick the generic
engine, enter the endpoint, test it, connect, and confirm that the connection row lists the
`wfs` backend. A dataset is created from the first table of that database; a connection or a
dataset that already exists counts as success. Deleting removes the first listed entry through
its dialog and then waits, polling every 250 ms for at most the action timeout, until no entry
of the generic engine is listed.

Main definitions:

- `createWfsConnection`, `createDataset`: registering the endpoint as a database, and a dataset
  from its first table.
- `waitForNoMatches`, `deleteFirst`: counting the matches of a selector until none is left or
  the polls run out, and deleting the first entry of a list before that wait.
-/

namespace DashboardHarness.Deployment

open Page

/-- The path of the database list. -/
def databaseListPath : String := "databaseview/list/"

/-- The path of the dataset list. -/
def datasetListPath : String := "tablemodelview/list/"

/-- The interval between deletion polls, in nanoseconds. -/
def pollInterval : Int := 250 * nanosPerMilli

/-- The cell of a tab-separated row at an index, trimmed, or empty. -/
def rowCell (row : String) (index : Nat) : String :=
  match (row.splitOn "\t")[index]? with
  | some cell => Text.trimBlank cell
  | none => ""

/-- Registers the configured WFS endpoint as a database connection. -/
def createWfsConnection (s : Settings) : Browse Unit := do
  openPage s databaseListPath
  stage "open connection form" (clickVisible addButton)
  stage "wait for connection form" (waitVisible connectDatabaseHeading)
  stage "wait for engine select" (waitVisible engineSelect)
  stage "open engine select" (click engineSelect {})
  stage "choose engine" (click otherEngineOption {})
  settle
  stage "wait for connection string field" (waitVisible connectionStringField)
  stage "fill connection string" (fill connectionStringField s.wfsEndpoint)
  stage "test connection" (click testConnectionButton {})
  mapFailure (.detailCause .connectionFailed "connection test") (waitVisible connectionLooksGood)
  settle
  let _ ← stage "connect database" (ensureInteractable connectButton (clickAction connectButton {}))
  let confirmation ← stage "confirm connection"
    (firstVisible [("connected", .ofText "Database connected"),
      ("already_exists", .ofText "already exists")])
  if confirmation.isNone then
    throw (.detail .connectionFailed "none of Database connected, already exists appeared")
  settle
  let row ← stage "read connection row" (innerText otherConnectionRow)
  if !Text.contains (rowCell row 1) "wfs" then
    throw (.detail .connectionFailed ("row " ++ Text.quote row ++ " does not list backend \"wfs\""))

/-- Submits the dataset form; a dataset that already exists is reported by the form instead. -/
def submitDataset : Browse Unit := do
  let submitted ← tryCatch (do click createDatasetAndChartButton {}; pure none)
    fun e => pure (some e)
  if submitted.isNone then
    settle
    let confirmation ← firstVisible [("chart_offered", .ofText "Create a new chart"),
      ("already_exists", .ofText "already exists")]
    if confirmation.isSome then return
  let existing ← visibleWithin (.ofText "This table already has a dataset")
  if !existing then
    let candidates := "Create a new chart, already exists, This table already has a dataset"
    match submitted with
    | some e => throw (.detailCause .datasetFailed (candidates ++ ": submit") e)
    | none => throw (.detail .datasetFailed ("none of " ++ candidates ++ " appeared"))

/-- Makes sure the WFS connection exists and creates a dataset from its first table. -/
def createDataset (s : Settings) : Browse Unit := do
  createWfsConnection s
  openPage s datasetListPath
  stage "open dataset form" (clickVisible addButton)
  stage "wait for dataset form" (waitVisible newDatasetHeading)
  stage "wait for database select" (waitVisible databaseSelect)
  stage "open database select" (click databaseSelect {})
  stage "choose database" (click wfsDatabaseOption {})
  settle
  stage "wait for table select" (waitVisible tableSelect)
  stage "open table select" (click tableSelect {})
  stage "choose table" (click firstTableOption {})
  settle
  submitDataset

/-- The number of extra polls that fit in the action timeout. -/
def pollCount (s : Settings) : Int :=
  s.actionTimeout.tdiv pollInterval

/-- Counts the matches of a selector until none is left or the polls run out, pausing one
interval between counts; the last count is returned. -/
def waitForNoMatches (target : Selector) (polls : Int) : Nat → Nat → Browse Int
  | 0, _ => count target
  | fuel + 1, poll => do
    let remaining ← count target
    if remaining = 0 ∨ (poll : Int) ≥ polls then return remaining
    sleep pollInterval
    waitForNoMatches target polls fuel (poll + 1)

/-- Deletes the first entry of a list through its dialog and requires that no entry of the
generic engine is listed afterwards. -/
def deleteFirst (s : Settings) (path dialogTitle : String) : Browse Unit := do
  openPage s path
  stage "open delete dialog" (click trashIcon {})
  settle
  stage "wait for delete dialog" (waitVisible (.ofText dialogTitle))
  stage "confirm deletion keyword" (fill deleteConfirmationField "DELETE")
  stage "confirm deletion" (click deleteButton {})
  settle
  stage "wait for deletion notice" (waitVisible deletedNotification)
  let polls := pollCount s
  let remaining ← waitForNoMatches otherEngineLabel polls polls.toNat 0
  if remaining ≠ 0 then
    throw (.detail .deletionIncomplete (toString remaining ++ " \"Other\" entries still listed"))

/-- Deletes the first listed database connection. -/
def deleteWfsConnection (s : Settings) : Browse Unit :=
  deleteFirst s databaseListPath "Delete Database?"

/-- Deletes the first listed dataset. -/
def deleteDataset (s : Settings) : Browse Unit :=
  deleteFirst s datasetListPath "Delete Dataset?"

end DashboardHarness.Deployment
