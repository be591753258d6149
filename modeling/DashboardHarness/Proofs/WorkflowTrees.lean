import DashboardHarness.Proofs.CallTrees
import DashboardHarness.Deployment.Connections
import DashboardHarness.Deployment.Dashboards
import DashboardHarness.Deployment.CrossFilter
import DashboardHarness.Deployment.Login
import DashboardHarness.Probe.Sweep

/-!
# The workflows as call trees

Every workflow of the deployment, the login of a session, and the probe's canvas sweep, written
as a call tree. Each tree is written as its workflow is, step for step, with the same stages and
the same failures of its own, and each `_run` lemma says that running the tree is the workflow.

Two things catch failures and go on: `visibleWithin` takes a timeout for "not shown", and the
dataset form keeps the failure of its submit button and reads the page's notices instead. They
are the trees' only `absorb` steps besides the retry of `ensureInteractable`, which the tree
writes as catching the failures that a scroll may cure and nothing else; the workflow catches
every failure and rethrows the others unchanged, which comes to the same run
(`Browse.tryCatch_rethrow`).

Each tree also comes with the calls it makes outside its wrappers (`CallTree.Outside`), for the
three wrappers that name a kind: the connection test, the canvas resolution and the wait for a
hidden tooltip.

Main results:

- `Tree.ensureInteractable_run`, `Deployment.Tree.createWfsConnection_run`,
  `Deployment.Tree.openDashboard_run`, `Deployment.Tree.login_run`, `Probe.Tree.hover_run` and
  the others: each tree runs as its workflow.
- `Deployment.Tree.createWfsConnection_outside`, `Deployment.Tree.createDataset_outside`: the
  only wait for `connectionLooksGood` is under the wrapper naming `connectionFailed`.
- `Probe.Tree.hover_outside_of`: the calls of `hover` outside the wrappers of a kind.
-/

namespace DashboardHarness

/-- Catching every failure of a part that answers nothing, as a value, and rethrowing those
that fail a test, is catching those that pass it. -/
theorem Browse.tryCatch_rethrow {α : Type} (first : Browse (Option Failure)) (part : Browse Unit)
    (hfirst : first = part >>= fun _ => pure none) (keep : Failure → Bool)
    (rest rest' : Option Failure → Browse α) (hnone : rest none = rest' none)
    (hsome : ∀ f, rest (some f) = if keep f then rest' (some f) else throw f) :
    (tryCatch first (fun e => pure (some e)) >>= rest) =
      (tryCatch first (fun e => if keep e then pure (some e) else throw e) >>= rest') := by
  subst hfirst
  funext p
  show ExceptT.run (_ : Browse α) p = ExceptT.run (_ : Browse α) p
  simp only [Browse.run_bind, Browse.run_tryCatch]
  rcases ExceptT.run part p with ⟨f | u, q⟩
  · cases hkeep : keep f <;> simp [hkeep, hsome]
  · simp [hnone]

namespace Tree

open CallTree

/-- `ensureInteractable` as a tree: a first attempt whose curable failures become answers, then
the scroll and the second attempt. -/
def ensureInteractable (s : Selector) (action : CallTree Unit) : CallTree Outcome := do
  match s.validate with
  | .error f => .fail f
  | .ok () => pure ()
  let first ← .absorb (do waitVisible s; action; pure none) Failure.isInteraction some
  match first with
  | none => return .acted
  | some f =>
    stage ("scroll " ++ s.render ++ " into view after " ++ f.message) (scrollIntoView s)
    waitVisible s
    action
    return .actedAfterScroll

theorem ensureInteractable_run (s : Selector) (action : CallTree Unit) :
    (ensureInteractable s action).run = DashboardHarness.ensureInteractable s action.run := by
  unfold ensureInteractable DashboardHarness.ensureInteractable
  cases s.validate with
  | error f => rfl
  | ok u =>
    simp only [CallTree.run_seq, CallTree.run]
    symm
    refine (Browse.tryCatch_rethrow _ (Page.waitVisible s >>= fun _ => action.run) ?hfirst
      Failure.isInteraction _ ?rest ?hnone ?hsome).trans ?htree
    case htree => rfl
    case hfirst => simp only [bind_assoc]
    case hnone => rfl
    case hsome =>
      intro f
      cases hcurable : f.isInteraction
      · simp [hcurable]
      · simp only [hcurable]
        rfl

theorem ensureInteractable_outside {k : Kind} {P : Call → Prop} (s : Selector)
    (action : CallTree Unit) (hwait : P (.waitVisible s)) (hscroll : P (.scrollIntoView s))
    (haction : action.Outside k P) : (ensureInteractable s action).Outside k P := by
  unfold ensureInteractable
  split <;>
  · simp only [outside_bind, outside_fail, outside_pure, outside_absorb, outside_waitVisible,
      true_and, hwait, haction, implies_true, and_self, forall_const]
    intro first
    cases first <;> simp [hwait, hscroll, haction]

end Tree

namespace Deployment.Tree

open CallTree

/-! ## Moving through the deployment -/

/-- `settle` as a tree. -/
def settle : CallTree Unit := stage "wait for network idle" waitNetworkIdle

/-- `openPage` as a tree. -/
def openPage (s : Settings) (path : String) : CallTree Unit := do
  let target := s.resolve path
  stage ("navigate to " ++ target) (navigate target)
  settle

/-- `clickVisible` as a tree. -/
def clickVisible (target : Selector) : CallTree Unit := do
  waitVisible target
  click target {}
  settle

/-- `visibleWithin` as a tree: a timeout becomes the answer `false`. -/
def visibleWithin (target : Selector) : CallTree Bool :=
  .absorb (do waitVisible target; pure true) (·.hasKind .timeout) fun _ => false

/-- `firstVisible` as a tree. -/
def firstVisible : List (String × Selector) → CallTree (Option String)
  | [] => pure none
  | (label, target) :: rest => do
    if ← visibleWithin target then return some label
    firstVisible rest

theorem settle_run : settle.run = Deployment.settle := rfl

theorem openPage_run (s : Settings) (path : String) :
    (openPage s path).run = Deployment.openPage s path := rfl

theorem clickVisible_run (target : Selector) :
    (clickVisible target).run = Deployment.clickVisible target := rfl

theorem visibleWithin_run (target : Selector) :
    (visibleWithin target).run = Deployment.visibleWithin target := rfl

theorem firstVisible_run (candidates : List (String × Selector)) :
    (firstVisible candidates).run = Deployment.firstVisible candidates := by
  induction candidates with
  | nil => rfl
  | cons candidate rest ih =>
    obtain ⟨label, target⟩ := candidate
    simp only [firstVisible, Deployment.firstVisible, CallTree.run_seq, visibleWithin_run]
    congr 1
    funext shown
    cases shown
    · exact ih
    · rfl

/-! ## Database connections and datasets -/

/-- `createWfsConnection` as a tree. -/
def createWfsConnection (s : Settings) : CallTree Unit := do
  openPage s databaseListPath
  stage "open connection form" (clickVisible addButton)
  stage "wait for connection form" (waitVisible connectDatabaseHeading)
  stage "wait for engine select" (waitVisible engineSelect)
  stage "open engine select" (click engineSelect {})
  stage "choose engine" (click otherEngineOption {})
  settle
  stage "wait for connection string field" (waitVisible connectionStringField)
  stage "fill connection string" (fill connectionStringField s.wfsEndpoint)
  stage "test connection" (click testConnectionButton {})
  .wrap (.detailCause .connectionFailed "connection test") (waitVisible connectionLooksGood)
  settle
  let _ ← stage "connect database" (Tree.ensureInteractable connectButton (click connectButton {}))
  let confirmation ← stage "confirm connection"
    (firstVisible [("connected", .ofText "Database connected"),
      ("already_exists", .ofText "already exists")])
  if confirmation.isNone then
    .fail (.detail .connectionFailed "none of Database connected, already exists appeared")
  settle
  let row ← stage "read connection row" (innerText otherConnectionRow)
  if !Text.contains (rowCell row 1) "wfs" then
    .fail (.detail .connectionFailed ("row " ++ Text.quote row ++ " does not list backend \"wfs\""))

/-- `submitDataset` as a tree: a failure of the submit button becomes an answer, kept for the
failure at the end. -/
def submitDataset : CallTree Unit := do
  let submitted ← .absorb (do click createDatasetAndChartButton {}; pure none) (fun _ => true) some
  if submitted.isNone then
    settle
    let confirmation ← firstVisible [("chart_offered", .ofText "Create a new chart"),
      ("already_exists", .ofText "already exists")]
    if confirmation.isSome then return
  let existing ← visibleWithin (.ofText "This table already has a dataset")
  if !existing then
    let candidates := "Create a new chart, already exists, This table already has a dataset"
    match submitted with
    | some e => .fail (.detailCause .datasetFailed (candidates ++ ": submit") e)
    | none => .fail (.detail .datasetFailed ("none of " ++ candidates ++ " appeared"))

/-- `createDataset` as a tree. -/
def createDataset (s : Settings) : CallTree Unit := do
  createWfsConnection s
  openPage s datasetListPath
  stage "open dataset form" (clickVisible addButton)
  stage "wait for dataset form" (waitVisible newDatasetHeading)
  stage "wait for database select" (waitVisible databaseSelect)
  stage "open database select" (click databaseSelect {})
  stage "choose database" (click wfsDatabaseOption {})
  settle
  stage "wait for table select" (waitVisible tableSelect)
  stage "open table select" (click tableSelect {})
  stage "choose table" (click firstTableOption {})
  settle
  submitDataset

/-- `waitForNoMatches` as a tree. -/
def waitForNoMatches (target : Selector) (polls : Int) : Nat → Nat → CallTree Int
  | 0, _ => count target
  | fuel + 1, poll => do
    let remaining ← count target
    if remaining = 0 ∨ (poll : Int) ≥ polls then return remaining
    sleep pollInterval
    waitForNoMatches target polls fuel (poll + 1)

/-- `deleteFirst` as a tree. -/
def deleteFirst (s : Settings) (path dialogTitle : String) : CallTree Unit := do
  openPage s path
  stage "open delete dialog" (click trashIcon {})
  settle
  stage "wait for delete dialog" (waitVisible (.ofText dialogTitle))
  stage "confirm deletion keyword" (fill deleteConfirmationField "DELETE")
  stage "confirm deletion" (click deleteButton {})
  settle
  stage "wait for deletion notice" (waitVisible deletedNotification)
  let polls := pollCount s
  let remaining ← waitForNoMatches otherEngineLabel polls polls.toNat 0
  if remaining ≠ 0 then
    .fail (.detail .deletionIncomplete (toString remaining ++ " \"Other\" entries still listed"))

theorem createWfsConnection_run (s : Settings) :
    (createWfsConnection s).run = Deployment.createWfsConnection s := by
  simp only [createWfsConnection, Deployment.createWfsConnection, CallTree.run_seq,
    CallTree.run_ite, CallTree.run_stage, CallTree.run_detailCause, CallTree.run_fail,
    CallTree.run_pure, CallTree.run_waitVisible, CallTree.run_click, CallTree.run_fill,
    CallTree.run_innerText, Tree.ensureInteractable_run, firstVisible_run, openPage_run,
    settle_run, clickVisible_run]
  rfl

theorem submitDataset_run : submitDataset.run = Deployment.submitDataset := by
  simp only [submitDataset, Deployment.submitDataset, CallTree.run_seq, CallTree.run_ite,
    CallTree.run_pure, firstVisible_run, settle_run, visibleWithin_run]
  congr 1
  funext submitted
  cases submitted <;> rfl

theorem createDataset_run (s : Settings) :
    (createDataset s).run = Deployment.createDataset s := by
  simp only [createDataset, Deployment.createDataset, CallTree.run_seq, CallTree.run_stage,
    CallTree.run_waitVisible, CallTree.run_click, createWfsConnection_run, openPage_run,
    settle_run, clickVisible_run, submitDataset_run]

theorem waitForNoMatches_run (target : Selector) (polls : Int) (fuel poll : Nat) :
    (waitForNoMatches target polls fuel poll).run =
      Deployment.waitForNoMatches target polls fuel poll := by
  induction fuel generalizing poll with
  | zero => rfl
  | succ fuel ih =>
    simp only [waitForNoMatches, Deployment.waitForNoMatches, CallTree.run_seq, CallTree.run_ite,
      CallTree.run_pure, CallTree.run_count, CallTree.run_sleep, ih]

theorem deleteFirst_run (s : Settings) (path dialogTitle : String) :
    (deleteFirst s path dialogTitle).run = Deployment.deleteFirst s path dialogTitle := by
  simp only [deleteFirst, Deployment.deleteFirst, CallTree.run_seq, CallTree.run_ite,
    CallTree.run_stage, CallTree.run_fail, CallTree.run_pure, CallTree.run_waitVisible,
    CallTree.run_click, CallTree.run_fill, openPage_run, settle_run, waitForNoMatches_run]

/-! ## Opening a dashboard -/

/-- `requireListPage` as a tree. -/
def requireListPage : CallTree Unit := do
  let title ← readTitle
  if title ≠ applicationTitle then
    .fail (.detail .unexpectedPage ("title " ++ Text.quote title))
  stage "wait for dashboard list header" (waitVisible dashboardListHeader)
  let header ← innerText dashboardListHeader
  if Text.trimBlank header ≠ "Dashboards" then
    .fail (.detail .unexpectedPage ("header " ++ Text.quote header))

/-- `isLastListPage` as a tree. -/
def isLastListPage : CallTree Bool := do
  let controls ← count nextPageControl
  if controls = 0 then return true
  let classes ← readAttribute nextPageControl "class"
  return Text.contains classes "disabled"

/-- `searchList` as a tree. -/
def searchList (s : Settings) (name : String) : Nat → Nat → CallTree Unit
  | 0, _ => pure ()
  | fuel + 1, listPage => do
    let link := dashboardLink name
    if ← isVisible link then
      stage "open dashboard" (click link {})
      stage "wait for dashboard title" (waitVisible dashboardTitle)
      return
    if ← isLastListPage then
      .fail (.detail .dashboardNotListed
        (Text.quote name ++ " not listed on " ++ toString listPage ++ " pages"))
    if (listPage : Int) ≥ s.maxDashboardPages then
      .fail (.detail .dashboardNotListed
        (Text.quote name ++ " not found within " ++ toString s.maxDashboardPages ++ " pages"))
    stage "advance dashboard list" (click nextPageControl {})
    settle
    searchList s name fuel (listPage + 1)

/-- `openDashboard` as a tree. -/
def openDashboard (s : Settings) (name : String) : CallTree Unit := do
  openPage s dashboardListPath
  requireListPage
  searchList s name (listBound s) 1

theorem requireListPage_run : requireListPage.run = Deployment.requireListPage := by
  simp only [requireListPage, Deployment.requireListPage, CallTree.run_seq, CallTree.run_ite,
    CallTree.run_stage, CallTree.run_fail, CallTree.run_pure, CallTree.run_readTitle,
    CallTree.run_waitVisible, CallTree.run_innerText]

theorem isLastListPage_run : isLastListPage.run = Deployment.isLastListPage := by
  simp only [isLastListPage, Deployment.isLastListPage, CallTree.run_seq, CallTree.run_ite,
    CallTree.run_pure, CallTree.run_count, CallTree.run_readAttribute]

theorem searchList_run (s : Settings) (name : String) (fuel listPage : Nat) :
    (searchList s name fuel listPage).run = Deployment.searchList s name fuel listPage := by
  induction fuel generalizing listPage with
  | zero => rfl
  | succ fuel ih =>
    simp only [searchList, Deployment.searchList, CallTree.run_seq, CallTree.run_ite,
      CallTree.run_stage, CallTree.run_fail, CallTree.run_pure, CallTree.run_isVisible,
      CallTree.run_click, CallTree.run_waitVisible, isLastListPage_run, settle_run, ih]

theorem openDashboard_run (s : Settings) (name : String) :
    (openDashboard s name).run = Deployment.openDashboard s name := by
  simp only [openDashboard, Deployment.openDashboard, CallTree.run_seq, openPage_run,
    requireListPage_run, searchList_run]

/-! ## Charts and cross-filters -/

/-- `waitForCharts` as a tree. -/
def waitForCharts (names : List String) : CallTree Unit :=
  names.forM fun name =>
    stage ("wait for chart " ++ Text.quote name) (waitVisible (chartByName name))

/-- `openFilterBar` as a tree. -/
def openFilterBar : CallTree Unit := stage "open filter bar" (clickVisible filterBarToggle)

/-- `expandFilterBar` as a tree. -/
def expandFilterBar : CallTree Unit := stage "expand filter bar" (clickVisible filterBarExpand)

/-- `filterBarEmpty` as a tree. -/
def filterBarEmpty : CallTree Bool := isVisible filterBarEmptyDescription

/-- `errorAlertShown` as a tree. -/
def errorAlertShown : CallTree Bool := isVisible errorAlert

/-- `clickChart` as a tree. -/
def clickChart (c : ChartClick) (button : String) : CallTree Unit := do
  match c.validate with
  | .error f => .fail f
  | .ok () => pure ()
  stage ("click chart " ++ c.container)
    (click c.canvas { button := button, modifiers := ["Shift"], position := c.position })
  settle

/-- `shiftClickChart` as a tree. -/
def shiftClickChart (c : ChartClick) : CallTree Unit := clickChart c "left"

/-- `removeCrossFilter` as a tree. -/
def removeCrossFilter (c : ChartClick) : CallTree Unit := do
  clickChart c "right"
  stage "remove cross-filter" (clickVisible removeCrossFilterItem)

/-- `dismissCrossFilter` as a tree. -/
def dismissCrossFilter (index : Int) : CallTree Unit :=
  stage "dismiss cross-filter" (clickVisible (crossFilterDismissIcons.nth index))

/-- `chartCanvasCount` as a tree. -/
def chartCanvasCount (container : String) : CallTree Int := do
  if Text.isBlankText container then
    .fail (.detail .invalidChartClick "container selector is required")
  stage ("wait for chart " ++ container) (waitVisible ((Selector.ofCss container).nth 0))
  count (chartCanvases container)

/-- `openChartView` as a tree. -/
def openChartView (name : String) (view : Selector) : CallTree Unit := do
  if Text.isBlankText name then .fail (.detail .invalidChartClick "chart name is required")
  stage ("open menu of chart " ++ Text.quote name) (click (chartMenu name) {})
  stage ("open " ++ view.render ++ " of chart " ++ Text.quote name) (clickVisible view)

/-- `closeChartView` as a tree. -/
def closeChartView : CallTree Unit := do
  stage "close chart view" (click modalCloseButton {})
  settle

/-- `chartTableRowCount` as a tree. -/
def chartTableRowCount (name : String) : CallTree Int := do
  openChartView name viewAsTableButton
  stage "wait for result table" (waitVisible resultTable)
  let rows ← count resultTableRows
  closeChartView
  return rows

/-- `chartQueryFiltered` as a tree. -/
def chartQueryFiltered (name : String) : CallTree Bool := do
  openChartView name viewQueryButton
  let selectShown ← visibleWithin querySelectClause
  let whereShown ← if selectShown then isVisible queryWhereClause else pure false
  closeChartView
  return selectShown && whereShown

theorem waitForCharts_run (names : List String) :
    (waitForCharts names).run = Deployment.waitForCharts names := by
  induction names with
  | nil => rfl
  | cons name rest ih =>
    simp only [waitForCharts, Deployment.waitForCharts, List.forM, CallTree.run_seq,
      CallTree.run_stage, CallTree.run_waitVisible] at ih ⊢
    rw [ih]

theorem clickChart_run (c : ChartClick) (button : String) :
    (clickChart c button).run = Deployment.clickChart c button := by
  unfold clickChart Deployment.clickChart
  cases c.validate <;> rfl

theorem removeCrossFilter_run (c : ChartClick) :
    (removeCrossFilter c).run = Deployment.removeCrossFilter c := by
  simp only [removeCrossFilter, Deployment.removeCrossFilter, CallTree.run_seq, clickChart_run,
    CallTree.run_stage, clickVisible_run]

theorem chartCanvasCount_run (container : String) :
    (chartCanvasCount container).run = Deployment.chartCanvasCount container := by
  simp only [chartCanvasCount, Deployment.chartCanvasCount, CallTree.run_seq, CallTree.run_ite,
    CallTree.run_stage, CallTree.run_fail, CallTree.run_waitVisible, CallTree.run_count]

theorem openChartView_run (name : String) (view : Selector) :
    (openChartView name view).run = Deployment.openChartView name view := by
  simp only [openChartView, Deployment.openChartView, CallTree.run_seq, CallTree.run_ite,
    CallTree.run_stage, CallTree.run_fail, CallTree.run_click, clickVisible_run]

theorem closeChartView_run : closeChartView.run = Deployment.closeChartView := rfl

theorem chartTableRowCount_run (name : String) :
    (chartTableRowCount name).run = Deployment.chartTableRowCount name := by
  simp only [chartTableRowCount, Deployment.chartTableRowCount, CallTree.run_seq,
    CallTree.run_stage, CallTree.run_pure, CallTree.run_waitVisible, CallTree.run_count,
    openChartView_run, closeChartView_run]

theorem chartQueryFiltered_run (name : String) :
    (chartQueryFiltered name).run = Deployment.chartQueryFiltered name := by
  simp only [chartQueryFiltered, Deployment.chartQueryFiltered, CallTree.run_seq,
    CallTree.run_ite, CallTree.run_pure, CallTree.run_isVisible, openChartView_run,
    closeChartView_run, visibleWithin_run]

/-! ## Logging in -/

/-- `login` as a tree. -/
def login (s : Settings) : CallTree String := do
  stage "navigate to application" (navigate s.applicationUrl)
  let title ← stage "read page title" readTitle
  if title ≠ applicationTitle then
    .fail (.detail .titleMismatch
      ("expected " ++ Text.quote applicationTitle ++ ", got " ++ Text.quote title))
  stage "fill username" (fill usernameField s.username)
  stage "fill password" (fill passwordField s.password)
  stage "submit login" (click submitButton {})
  stage "wait for network idle" waitNetworkIdle
  let landing ← stage "read landing url" readUrl
  if !Text.contains landing landingMarker then
    .fail (.detail .landingNotReached
      ("expected " ++ Text.quote landingMarker ++ " in " ++ landing))
  return landing

theorem login_run (s : Settings) : (login s).run = Deployment.login s := by
  simp only [login, Deployment.login, CallTree.run_seq, CallTree.run_ite, CallTree.run_stage,
    CallTree.run_fail, CallTree.run_pure, CallTree.run_navigate, CallTree.run_readTitle,
    CallTree.run_fill, CallTree.run_click, CallTree.run_waitNetworkIdle, CallTree.run_readUrl]

/-! ## The calls outside the connection test -/

section Outside

variable {k : Kind} {P : Call → Prop}

theorem settle_outside (hidle : P .waitNetworkIdle) : settle.Outside k P := by
  simpa [settle] using hidle

theorem openPage_outside (s : Settings) (path : String)
    (hnavigate : P (.navigate (s.resolve path))) (hidle : P .waitNetworkIdle) :
    (openPage s path).Outside k P := by
  simp [openPage, hnavigate, settle_outside hidle]

theorem clickVisible_outside (target : Selector) (hwait : P (.waitVisible target))
    (hclick : P (.click target {})) (hidle : P .waitNetworkIdle) :
    (clickVisible target).Outside k P := by
  simp [clickVisible, hwait, hclick, settle_outside hidle]

theorem visibleWithin_outside (target : Selector) (hwait : P (.waitVisible target)) :
    (visibleWithin target).Outside k P := by
  simp [visibleWithin, hwait]

theorem firstVisible_outside (candidates : List (String × Selector))
    (hwait : ∀ c ∈ candidates, P (.waitVisible c.2)) : (firstVisible candidates).Outside k P := by
  induction candidates with
  | nil => simp [firstVisible]
  | cons candidate rest ih =>
    obtain ⟨label, target⟩ := candidate
    simp only [List.mem_cons, forall_eq_or_imp] at hwait
    simp only [firstVisible, outside_bind, visibleWithin_outside target hwait.1, true_and]
    intro shown
    cases shown <;> simp [ih hwait.2]

theorem submitDataset_outside
    (hwait : ∀ text ∈ ["Create a new chart", "already exists", "This table already has a dataset"],
      P (.waitVisible (.ofText text)))
    (hidle : P .waitNetworkIdle) (hclick : P (.click createDatasetAndChartButton {})) :
    submitDataset.Outside k P := by
  unfold submitDataset
  simp only [outside_bind, outside_absorb, outside_click, outside_pure, hclick, true_and,
    implies_true, and_true]
  have hfirst : (firstVisible [("chart_offered", .ofText "Create a new chart"),
      ("already_exists", .ofText "already exists")]).Outside k P :=
    firstVisible_outside _ (by simp_all)
  have hexists : (visibleWithin (.ofText "This table already has a dataset")).Outside k P :=
    visibleWithin_outside _ (hwait _ (by simp))
  intro submitted
  cases submitted with
  | none =>
    simp only [Option.isNone_none, if_true, outside_bind, settle_outside hidle, hfirst, true_and]
    intro _ confirmation
    split
    · trivial
    · simp only [outside_bind, hexists, true_and]
      intro existing
      split <;> trivial
  | some e =>
    simp only [Option.isNone_some, Bool.false_eq_true, if_false, outside_bind, hexists, true_and]
    intro existing
    split <;> trivial

end Outside

/-- In the connection workflow the wait for `connectionLooksGood` is the connection test, and
it sits under the wrapper naming `connectionFailed`; every other call is another one. -/
theorem createWfsConnection_outside (s : Settings) :
    (createWfsConnection s).Outside .connectionFailed (· ≠ .waitVisible connectionLooksGood) := by
  simp [createWfsConnection, openPage_outside, clickVisible_outside, settle_outside,
    Tree.ensureInteractable_outside, firstVisible_outside, addButton, connectionLooksGood,
    connectDatabaseHeading, engineSelect, connectionStringField, connectButton,
    Selector.ofCss, Selector.ofText, Selector.withText, Selector.nth]

/-- The dataset workflow runs the connection workflow first and waits for no notice of the
connection test after it. -/
theorem createDataset_outside (s : Settings) :
    (createDataset s).Outside .connectionFailed (· ≠ .waitVisible connectionLooksGood) := by
  have hsubmit : submitDataset.Outside .connectionFailed (· ≠ .waitVisible connectionLooksGood) :=
    submitDataset_outside (by simp [connectionLooksGood, Selector.ofText]) (by simp) (by simp)
  have hforms : newDatasetHeading ≠ connectionLooksGood ∧ databaseSelect ≠ connectionLooksGood ∧
      tableSelect ≠ connectionLooksGood ∧ addButton ≠ connectionLooksGood := by
    decide
  simp [createDataset, createWfsConnection_outside, hsubmit, openPage_outside,
    clickVisible_outside, settle_outside, hforms]

end Deployment.Tree

namespace Probe.Tree

open CallTree

/-- `resolveCanvas` as a tree: both canvas calls sit under the wrapper naming
`canvasNotVisible`. -/
def resolveCanvas (o : ProbeOptions) (container : String) : CallTree Box := do
  if Text.isBlankText container then .fail (.kind .missingContainer)
  let canvas := o.canvasSelector container
  let unseen := Wrapper.detailCause .canvasNotVisible canvas.render
  .wrap unseen (waitVisible canvas)
  let box ← .wrap unseen (boundingBox canvas)
  if box.isDegenerate then
    .fail (.detail .degenerateCanvas (canvas.render ++ " is " ++ Decimal.fixed 1 box.width ++ "x" ++
      Decimal.fixed 1 box.height))
  return box

/-- `tryPoint` as a tree. -/
def tryPoint (o : ProbeOptions) (box : Box) (position : Point) (attempts : Nat) :
    CallTree (Option Hit) := do
  let absolute := box.absolute position
  stage "move pointer" (mouseMove absolute)
  stage "settle" (sleep o.settleDelay)
  let shown ← stage "check tooltip" (isVisible o.tooltipSelector)
  if shown then
    stage "click feature" (mouseClick absolute {})
    return some ⟨position, absolute, box, attempts⟩
  else return none

/-- `sweepRow` as a tree. -/
def sweepRow (o : ProbeOptions) (box : Box) (y : Float) :
    Nat → Float → Nat → CallTree (Option Hit × Nat)
  | 0, _, tried => pure (none, tried)
  | fuel + 1, x, tried =>
    if x < box.width then do
      match ← tryPoint o box ⟨x, y⟩ (tried + 1) with
      | some hit => pure (some hit, tried + 1)
      | none => sweepRow o box y fuel (x + o.step) (tried + 1)
    else pure (none, tried)

/-- `sweepRows` as a tree. -/
def sweepRows (o : ProbeOptions) (box : Box) : Nat → Float → Nat → CallTree (Option Hit × Nat)
  | 0, _, tried => pure (none, tried)
  | fuel + 1, y, tried =>
    if y < box.height then do
      match ← sweepRow o box y walkBound 0 tried with
      | (some hit, tried) => pure (some hit, tried)
      | (none, tried) => sweepRows o box fuel (y + o.step) tried
    else pure (none, tried)

/-- `hover` as a tree: the wait for a hidden tooltip sits under the wrapper naming
`tooltipAlreadyVisible`. -/
def hover (o : ProbeOptions) (container : String) : CallTree Hit := do
  let _ ← resolveCanvas o container
  let tooltip := o.tooltipSelector
  .wrap (.detailCause .tooltipAlreadyVisible tooltip.render) (waitHidden tooltip)
  if 0 < o.zoomClicks then
    stage "zoom in" (click (o.zoomSelector container) { clickCount := o.zoomClicks })
  let box ← stage "resolve canvas" (resolveCanvas o container)
  match ← sweepRows o box walkBound 0 0 with
  | (some hit, _) => return hit
  | (none, tried) =>
    .fail (.detail .tooltipNotFound (toString tried ++ " positions over " ++
      Decimal.fixed 0 box.width ++ "x" ++ Decimal.fixed 0 box.height ++ " canvas"))

theorem resolveCanvas_run (o : ProbeOptions) (container : String) :
    (resolveCanvas o container).run = Probe.resolveCanvas o container := by
  simp only [resolveCanvas, Probe.resolveCanvas, CallTree.run_seq, CallTree.run_ite,
    CallTree.run_detailCause, CallTree.run_fail, CallTree.run_pure, CallTree.run_waitVisible,
    CallTree.run_boundingBox]

theorem tryPoint_run (o : ProbeOptions) (box : Box) (position : Point) (attempts : Nat) :
    (tryPoint o box position attempts).run = Probe.tryPoint o box position attempts := by
  simp only [tryPoint, Probe.tryPoint, CallTree.run_seq, CallTree.run_ite, CallTree.run_stage,
    CallTree.run_pure, CallTree.run_mouseMove, CallTree.run_sleep, CallTree.run_isVisible,
    CallTree.run_mouseClick]

theorem sweepRow_run (o : ProbeOptions) (box : Box) (y : Float) (fuel : Nat) (x : Float)
    (tried : Nat) : (sweepRow o box y fuel x tried).run = Probe.sweepRow o box y fuel x tried := by
  induction fuel generalizing x tried with
  | zero => rfl
  | succ fuel ih =>
    simp only [sweepRow, Probe.sweepRow, CallTree.run_ite, CallTree.run_seq, CallTree.run_pure,
      tryPoint_run]
    split
    · congr 1
      funext hit?
      cases hit? with
      | some hit => rfl
      | none => exact ih _ _
    · rfl

theorem sweepRows_run (o : ProbeOptions) (box : Box) (fuel : Nat) (y : Float) (tried : Nat) :
    (sweepRows o box fuel y tried).run = Probe.sweepRows o box fuel y tried := by
  induction fuel generalizing y tried with
  | zero => rfl
  | succ fuel ih =>
    simp only [sweepRows, Probe.sweepRows, CallTree.run_ite, CallTree.run_seq, CallTree.run_pure,
      sweepRow_run]
    split
    · congr 1
      funext swept
      obtain ⟨_ | hit, tried'⟩ := swept
      · exact ih _ _
      · rfl
    · rfl

theorem hover_run (o : ProbeOptions) (container : String) :
    (hover o container).run = Probe.hover o container := by
  simp only [hover, Probe.hover, CallTree.run_seq, CallTree.run_ite, CallTree.run_stage,
    CallTree.run_detailCause, CallTree.run_waitHidden, CallTree.run_click, resolveCanvas_run,
    sweepRows_run]
  congr 1
  funext _
  congr 1
  funext _
  split
  · congr 1
    funext _
    congr 1
    funext box
    congr 1
    funext swept
    obtain ⟨_ | hit, tried⟩ := swept <;> rfl
  · congr 1
    funext box
    congr 1
    funext swept
    obtain ⟨_ | hit, tried⟩ := swept <;> rfl

/-! ## The calls outside the canvas and tooltip wrappers -/

section Outside

variable {k : Kind} {P : Call → Prop}

/-- Both calls of a canvas resolution sit under the wrapper naming `canvasNotVisible`. -/
theorem resolveCanvas_outside_canvas (o : ProbeOptions) (container : String) :
    (resolveCanvas o container).Outside .canvasNotVisible P := by
  simp [resolveCanvas]

theorem resolveCanvas_outside_of (o : ProbeOptions) (container : String)
    (hwait : P (.waitVisible (o.canvasSelector container)))
    (hbox : P (.boundingBox (o.canvasSelector container))) :
    (resolveCanvas o container).Outside k P := by
  simp [resolveCanvas, hwait, hbox]

/-- The calls of a sweep pass `P`: pointer moves, pauses, tooltip checks and pointer clicks. -/
def SweepCalls (P : Call → Prop) : Prop :=
  (∀ point, P (.mouseMove point)) ∧ (∀ nanos, P (.sleep nanos)) ∧ (∀ s, P (.isVisible s)) ∧
    ∀ point options, P (.mouseClick point options)

theorem tryPoint_outside (o : ProbeOptions) (box : Box) (position : Point) (attempts : Nat)
    (h : SweepCalls P) : (tryPoint o box position attempts).Outside k P := by
  obtain ⟨hmove, hsleep, hcheck, hclick⟩ := h
  simp [tryPoint, hmove, hsleep, hcheck, hclick]

theorem sweepRow_outside (o : ProbeOptions) (box : Box) (y : Float) (h : SweepCalls P)
    (fuel : Nat) (x : Float) (tried : Nat) : (sweepRow o box y fuel x tried).Outside k P := by
  induction fuel generalizing x tried with
  | zero => trivial
  | succ fuel ih =>
    simp only [sweepRow, outside_ite, outside_bind, outside_pure, tryPoint_outside o box _ _ h,
      true_and]
    split
    · intro hit?
      cases hit? with
      | some hit => trivial
      | none => exact ih _ _
    · trivial

theorem sweepRows_outside (o : ProbeOptions) (box : Box) (h : SweepCalls P)
    (fuel : Nat) (y : Float) (tried : Nat) : (sweepRows o box fuel y tried).Outside k P := by
  induction fuel generalizing y tried with
  | zero => trivial
  | succ fuel ih =>
    simp only [sweepRows, outside_ite, outside_bind, outside_pure, sweepRow_outside o box _ h,
      true_and]
    split
    · intro swept
      obtain ⟨_ | hit, tried'⟩ := swept
      · exact ih _ _
      · trivial
    · trivial

/-- The calls of `hover` outside the wrappers naming `k`: those of the first canvas resolution
(the second one is under a stage), the hidden-tooltip wait unless `k` names it, the zoom click
and the sweep. -/
theorem hover_outside_of (o : ProbeOptions) (container : String)
    (hresolve : (resolveCanvas o container).Outside k P) (h : SweepCalls P)
    (hhidden : .tooltipAlreadyVisible = k ∨ P (.waitHidden o.tooltipSelector))
    (hzoom : P (.click (o.zoomSelector container) { clickCount := o.zoomClicks })) :
    (hover o container).Outside k P := by
  have hsweep : ∀ box, (sweepRows o box walkBound 0 0).Outside k P :=
    fun box => sweepRows_outside o box h _ _ _
  simp only [hover, outside_bind, outside_wrap, outside_waitHidden, outside_ite, outside_stage,
    outside_click, hresolve, Wrapper.sentinel_detailCause, Option.some.injEq, hhidden, hzoom,
    hsweep, true_and, forall_const]
  split <;>
  · intro box swept
    obtain ⟨_ | hit, tried⟩ := swept <;> trivial

end Outside

end Probe.Tree

end DashboardHarness
