import DashboardHarness.Proofs.WorkflowTrees

/-!
# Failures keep the failure of the call they stop at

Every operation a caller runs on a page (the workflows of the deployment, the login of a
session, the probe's canvas resolution and hover) is the run of its call tree
(`Operation.tree_run`). So, by `CallTree.StopsAt.wraps`, an operation that stops at a page call
fails with a failure that has the call's failure in its chain of causes, whatever the page: a
failure of the scripted page, a cancelled request, or a failure of a rule of the script. Where
the operation stops under a wrapper that names a kind, its failure has that kind too: the
connection test, the canvas resolution and the wait for a hidden tooltip. A session passes on
the failures of its browser and of its login in the same way.

Failures that an operation takes as answers are not stops. A timeout while waiting for an
optional element answers `false`, as for an absent element, and a failed submit of the dataset
form leaves the form's notice to decide, with the submit's failure kept under the dataset
failure when the notice is absent too.

Main results:

- `operation_failures_keep_cause`: the whole statement, for every operation and every page.
-/

namespace DashboardHarness

open CallTree

/-- The operations a caller runs on a scripted page: the workflows of the deployment, the login
of a session, and the probe's canvas resolution and hover. -/
inductive Operation where
  | openDashboard (s : Settings) (name : String)
  | createWfsConnection (s : Settings)
  | deleteWfsConnection (s : Settings)
  | createDataset (s : Settings)
  | deleteDataset (s : Settings)
  | waitForCharts (names : List String)
  | openFilterBar
  | expandFilterBar
  | filterBarEmpty
  | errorAlertShown
  | shiftClickChart (c : Deployment.ChartClick)
  | removeCrossFilter (c : Deployment.ChartClick)
  | dismissCrossFilter (index : Int)
  | chartCanvasCount (container : String)
  | chartTableRowCount (name : String)
  | chartQueryFiltered (name : String)
  | login (s : Settings)
  | resolveCanvas (o : ProbeOptions) (container : String)
  | hover (o : ProbeOptions) (container : String)

namespace Operation

/-- What an operation answers when it succeeds. -/
def Answer : Operation → Type
  | .filterBarEmpty | .errorAlertShown | .chartQueryFiltered _ => Bool
  | .chartCanvasCount _ | .chartTableRowCount _ => Int
  | .login _ => String
  | .resolveCanvas _ _ => Box
  | .hover _ _ => Probe.Hit
  | _ => Unit

/-- The operation as the harness runs it. -/
def browse : (op : Operation) → Browse op.Answer
  | .openDashboard s name => Deployment.openDashboard s name
  | .createWfsConnection s => Deployment.createWfsConnection s
  | .deleteWfsConnection s => Deployment.deleteWfsConnection s
  | .createDataset s => Deployment.createDataset s
  | .deleteDataset s => Deployment.deleteDataset s
  | .waitForCharts names => Deployment.waitForCharts names
  | .openFilterBar => Deployment.openFilterBar
  | .expandFilterBar => Deployment.expandFilterBar
  | .filterBarEmpty => Deployment.filterBarEmpty
  | .errorAlertShown => Deployment.errorAlertShown
  | .shiftClickChart c => Deployment.shiftClickChart c
  | .removeCrossFilter c => Deployment.removeCrossFilter c
  | .dismissCrossFilter index => Deployment.dismissCrossFilter index
  | .chartCanvasCount container => Deployment.chartCanvasCount container
  | .chartTableRowCount name => Deployment.chartTableRowCount name
  | .chartQueryFiltered name => Deployment.chartQueryFiltered name
  | .login s => Deployment.login s
  | .resolveCanvas o container => Probe.resolveCanvas o container
  | .hover o container => Probe.hover o container

/-- The operation as a call tree. -/
def tree : (op : Operation) → CallTree op.Answer
  | .openDashboard s name => Deployment.Tree.openDashboard s name
  | .createWfsConnection s => Deployment.Tree.createWfsConnection s
  | .deleteWfsConnection s =>
    Deployment.Tree.deleteFirst s Deployment.databaseListPath "Delete Database?"
  | .createDataset s => Deployment.Tree.createDataset s
  | .deleteDataset s => Deployment.Tree.deleteFirst s Deployment.datasetListPath "Delete Dataset?"
  | .waitForCharts names => Deployment.Tree.waitForCharts names
  | .openFilterBar => Deployment.Tree.openFilterBar
  | .expandFilterBar => Deployment.Tree.expandFilterBar
  | .filterBarEmpty => Deployment.Tree.filterBarEmpty
  | .errorAlertShown => Deployment.Tree.errorAlertShown
  | .shiftClickChart c => Deployment.Tree.shiftClickChart c
  | .removeCrossFilter c => Deployment.Tree.removeCrossFilter c
  | .dismissCrossFilter index => Deployment.Tree.dismissCrossFilter index
  | .chartCanvasCount container => Deployment.Tree.chartCanvasCount container
  | .chartTableRowCount name => Deployment.Tree.chartTableRowCount name
  | .chartQueryFiltered name => Deployment.Tree.chartQueryFiltered name
  | .login s => Deployment.Tree.login s
  | .resolveCanvas o container => Probe.Tree.resolveCanvas o container
  | .hover o container => Probe.Tree.hover o container

theorem tree_run (op : Operation) : op.tree.run = op.browse := by
  cases op with
  | openDashboard s name => exact Deployment.Tree.openDashboard_run s name
  | createWfsConnection s => exact Deployment.Tree.createWfsConnection_run s
  | deleteWfsConnection s => exact Deployment.Tree.deleteFirst_run s _ _
  | createDataset s => exact Deployment.Tree.createDataset_run s
  | deleteDataset s => exact Deployment.Tree.deleteFirst_run s _ _
  | waitForCharts names => exact Deployment.Tree.waitForCharts_run names
  | shiftClickChart c => exact Deployment.Tree.clickChart_run c _
  | removeCrossFilter c => exact Deployment.Tree.removeCrossFilter_run c
  | chartCanvasCount container => exact Deployment.Tree.chartCanvasCount_run container
  | chartTableRowCount name => exact Deployment.Tree.chartTableRowCount_run name
  | chartQueryFiltered name => exact Deployment.Tree.chartQueryFiltered_run name
  | login s => exact Deployment.Tree.login_run s
  | resolveCanvas o container => exact Probe.Tree.resolveCanvas_run o container
  | hover o container => exact Probe.Tree.hover_run o container
  | openFilterBar | expandFilterBar | filterBarEmpty | errorAlertShown | dismissCrossFilter _ =>
    rfl

/-- The instrumented run of an operation's tree answers, fails and leaves the page as the
operation does. -/
theorem exec_browse (op : Operation) (p : Page) :
    op.browse.run p = ((op.tree.exec p).1.mapError Stop.failure, (op.tree.exec p).2) := by
  rw [← tree_run, exec_run]

end Operation

/-! ## Sessions -/

namespace Deployment

/-- A browser that refuses a page ends the opening with its failure under "open page". -/
theorem openSession_page_refused (b : Browser) (s : Settings) (e : Failure)
    (hvalid : s.validate = .ok ()) (hpage : b.newPage = .error e) :
    openSession (some b) s = .refused (.context "open page" e) := by
  simp [openSession, hvalid, hpage]

/-- A login that stops at a page call ends the opening with the login's failure, on the page it
closes. -/
theorem openSession_login_stopped (b : Browser) (s : Settings) (page : Page) (rest : Browser)
    (c : Call) (e err : Failure) (hvalid : s.validate = .ok ())
    (hpage : b.newPage = .ok (page, rest)) (hstop : (Tree.login s).StopsAt page c e err) :
    ∃ closed, openSession (some b) s = .failed err closed rest := by
  obtain ⟨q, hrun⟩ := hstop.run
  rw [Tree.login_run] at hrun
  exact ⟨((Page.close).run q).2, by simp [openSession, hvalid, hpage, hrun]⟩

/-! ## Failures taken as answers -/

/-- A wait for an optional element that times out answers `false`, as for an absent element,
on the page the wait left. -/
theorem visibleWithin_timeout (target : Selector) (p q : Page) (e : Failure)
    (hwait : (Page.waitVisible target).run p = (.error e, q))
    (htimeout : e.hasKind .timeout = true) :
    (visibleWithin target).run p = (.ok false, q) := by
  unfold visibleWithin
  rw [Browse.run_tryCatch, Browse.run_bind, hwait]
  simp only [htimeout, if_true]
  rfl

/-- A failed submit of the dataset form leaves the answer to the notice that the table already
has a dataset: shown, the form succeeds; absent, it fails with the submit's failure kept under
the dataset failure. -/
theorem submitDataset_after_failed_submit (p q r : Page) (e : Failure)
    (hsubmit : (Page.click createDatasetAndChartButton {}).run p = (.error e, q)) :
    ((visibleWithin (.ofText "This table already has a dataset")).run q = (.ok true, r) →
      submitDataset.run p = (.ok (), r)) ∧
    ((visibleWithin (.ofText "This table already has a dataset")).run q = (.ok false, r) →
      submitDataset.run p = (.error (.detailCause .datasetFailed
        "Create a new chart, already exists, This table already has a dataset: submit" e), r)) := by
  have hkept : (tryCatch (do Page.click createDatasetAndChartButton {}; pure none)
      (fun e => pure (some e)) : Browse (Option Failure)).run p = (.ok (some e), q) := by
    rw [Browse.run_tryCatch, Browse.run_bind, hsubmit]
    rfl
  unfold submitDataset
  rw [Browse.run_bind, hkept]
  simp only [Option.isNone_some, Bool.false_eq_true, if_false]
  constructor
  · intro hnotice
    rw [Browse.run_bind, hnotice]
    rfl
  · intro hnotice
    rw [Browse.run_bind, hnotice]
    rfl

end Deployment

/-! ## The statement -/

/-- Operations keep the failure of the page call they stop at. For every operation and every
page: the instrumented run is the operation's run; a run that stops at a page call fails with a
failure that wraps the call's; stopped at the connection test, at the canvas resolution or at
the wait for a hidden tooltip, it also has the kind named there; a session passes on its
browser's and its login's failures; and the two failures taken as answers behave as described
above. -/
theorem operation_failures_keep_cause :
    (∀ (op : Operation) (p : Page),
      op.browse.run p = ((op.tree.exec p).1.mapError Stop.failure, (op.tree.exec p).2)) ∧
    (∀ (op : Operation) (p : Page) (c : Call) (e err : Failure),
      op.tree.StopsAt p c e err → err.Wraps e) ∧
    (∀ (s : Settings) (p : Page) (e err : Failure),
      ((Operation.createWfsConnection s).tree.StopsAt p
          (.waitVisible Deployment.connectionLooksGood) e err ∨
        (Operation.createDataset s).tree.StopsAt p
          (.waitVisible Deployment.connectionLooksGood) e err) →
      err.hasKind .connectionFailed = true) ∧
    (∀ (o : ProbeOptions) (container : String) (p : Page) (s : Selector) (e err : Failure),
      ((Operation.resolveCanvas o container).tree.StopsAt p (.waitVisible s) e err ∨
        (Operation.resolveCanvas o container).tree.StopsAt p (.boundingBox s) e err ∨
        (Operation.hover o container).tree.StopsAt p (.waitVisible s) e err ∨
        (Operation.hover o container).tree.StopsAt p (.boundingBox s) e err) →
      err.hasKind .canvasNotVisible = true) ∧
    (∀ (o : ProbeOptions) (container : String) (p : Page) (s : Selector) (e err : Failure),
      (Operation.hover o container).tree.StopsAt p (.waitHidden s) e err →
      err.hasKind .tooltipAlreadyVisible = true) ∧
    (∀ (b : Deployment.Browser) (s : Settings) (e : Failure), s.validate = .ok () →
      b.newPage = .error e →
      ∃ err, Deployment.openSession (some b) s = .refused err ∧ err.Wraps e) ∧
    (∀ (b : Deployment.Browser) (s : Settings) (page : Page) (rest : Deployment.Browser)
      (c : Call) (e err : Failure), s.validate = .ok () → b.newPage = .ok (page, rest) →
      (Operation.login s).tree.StopsAt page c e err →
      (∃ closed, Deployment.openSession (some b) s = .failed err closed rest) ∧ err.Wraps e) ∧
    (∀ (target : Selector) (p q : Page) (e : Failure),
      (Page.waitVisible target).run p = (.error e, q) → e.hasKind .timeout = true →
      (Deployment.visibleWithin target).run p = (.ok false, q)) ∧
    (∀ (p q r : Page) (e : Failure),
      (Page.click Deployment.createDatasetAndChartButton {}).run p = (.error e, q) →
      ((Deployment.visibleWithin (.ofText "This table already has a dataset")).run q =
          (.ok true, r) → Deployment.submitDataset.run p = (.ok (), r)) ∧
      ((Deployment.visibleWithin (.ofText "This table already has a dataset")).run q =
          (.ok false, r) → Deployment.submitDataset.run p = (.error (.detailCause .datasetFailed
            "Create a new chart, already exists, This table already has a dataset: submit" e), r)))
    := by
  have hsweepCanvas : Probe.Tree.SweepCalls fun c : Call =>
      (∀ s, c ≠ .waitVisible s) ∧ ∀ s, c ≠ .boundingBox s := by
    simp [Probe.Tree.SweepCalls]
  have hsweepTooltip : Probe.Tree.SweepCalls fun c : Call => ∀ s, c ≠ .waitHidden s := by
    simp [Probe.Tree.SweepCalls]
  refine ⟨Operation.exec_browse, fun _ _ _ _ _ h => h.wraps, ?connection, ?canvas, ?tooltip,
    ?refused, ?login, Deployment.visibleWithin_timeout,
    fun p q r e h => Deployment.submitDataset_after_failed_submit p q r e h⟩
  case connection =>
    rintro s p e err (h | h)
    · exact h.hasKind (Deployment.Tree.createWfsConnection_outside s) (by simp)
    · exact h.hasKind (Deployment.Tree.createDataset_outside s) (by simp)
  case canvas =>
    intro o container p s e err h
    have hresolve : (Probe.Tree.resolveCanvas o container).Outside .canvasNotVisible
        fun _ => False :=
      Probe.Tree.resolveCanvas_outside_canvas o container
    have hhover : (Probe.Tree.hover o container).Outside .canvasNotVisible
        fun c : Call => (∀ s, c ≠ .waitVisible s) ∧ ∀ s, c ≠ .boundingBox s :=
      Probe.Tree.hover_outside_of o container (Probe.Tree.resolveCanvas_outside_canvas o container)
        hsweepCanvas (.inr (by simp)) (by simp)
    rcases h with h | h | h | h
    · exact h.hasKind hresolve not_false
    · exact h.hasKind hresolve not_false
    · exact h.hasKind hhover (by simp)
    · exact h.hasKind hhover (by simp)
  case tooltip =>
    intro o container p s e err h
    have hhover : (Probe.Tree.hover o container).Outside .tooltipAlreadyVisible
        fun c : Call => ∀ s, c ≠ .waitHidden s :=
      Probe.Tree.hover_outside_of o container
        (Probe.Tree.resolveCanvas_outside_of o container (by simp) (by simp)) hsweepTooltip
        (.inl rfl) (by simp)
    exact h.hasKind hhover (by simp)
  case refused =>
    intro b s e hvalid hpage
    exact ⟨_, Deployment.openSession_page_refused b s e hvalid hpage, .context _ (.refl e)⟩
  case login =>
    intro b s page rest c e err hvalid hpage hstop
    exact ⟨Deployment.openSession_login_stopped b s page rest c e err hvalid hpage hstop,
      hstop.wraps⟩

/-- On a page with nothing on it, opening the filter bar stops at the wait for its toggle, and
its failure wraps the wait's. -/
theorem filter_bar_wait_failure_kept :
    ∃ e err, Operation.openFilterBar.tree.StopsAt default
      (.waitVisible Deployment.filterBarToggle) e err ∧ err.Wraps e := by
  obtain ⟨e, err, hstop⟩ : ∃ e err, Operation.openFilterBar.tree.StopsAt default
      (.waitVisible Deployment.filterBarToggle) e err := ⟨_, _, _, rfl⟩
  exact ⟨e, err, hstop, operation_failures_keep_cause.2.1 _ _ _ _ _ hstop⟩

end DashboardHarness
