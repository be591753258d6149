/-!
# Failures

What goes wrong, as data. A failure is one of the named kinds that callers test for, a failure
known only by its text, or a failure that carries a stage's words in front of the failure that
caused it. The message is computed from that structure, and a failure *has* a kind when the
kind stands anywhere in its chain of causes, which is how callers tell failures apart.

Main definitions:

- `Failure`: a kind, a text, or a kind or a stage's words in front of the failure that caused
  it.
- `Failure.hasKind`, `Failure.kinds`: whether a kind stands anywhere in the chain of causes, and
  the kinds that do, in the order of `Kind.all`.
-/

namespace DashboardHarness

/-- The named failures that callers tell apart, grouped by the part of the harness that raises
them. -/
inductive Kind where
  /-- A dashboard is not on the list pages. -/
  | dashboardNotListed
  /-- The browser is not on the page a workflow expects. -/
  | unexpectedPage
  /-- A database connection could not be created. -/
  | connectionFailed
  /-- A dataset could not be created. -/
  | datasetFailed
  /-- Deleted entries are still listed. -/
  | deletionIncomplete
  /-- A chart click is malformed. -/
  | invalidChartClick
  /-- A map canvas is not visible. -/
  | canvasNotVisible
  /-- A map canvas has no area. -/
  | degenerateCanvas
  /-- The tooltip shows before probing. -/
  | tooltipAlreadyVisible
  /-- No probed position showed the tooltip. -/
  | tooltipNotFound
  /-- Probe options are invalid. -/
  | invalidProbeOptions
  /-- No chart container was given to the probe. -/
  | missingContainer
  /-- The login page has another title. -/
  | titleMismatch
  /-- The landing page was not reached after login. -/
  | landingNotReached
  /-- No browser was given to the session. -/
  | missingBrowser
  /-- The application URL is invalid. -/
  | invalidApplicationUrl
  /-- A user name or password is missing. -/
  | missingCredentials
  /-- A timeout is not positive. -/
  | invalidTimeout
  /-- The dashboard page limit is not positive. -/
  | invalidPageLimit
  /-- No browser driver is named. -/
  | missingDriverName
  /-- No database driver is named. -/
  | missingDatabaseDriver
  /-- The database driver is not supported. -/
  | unsupportedDatabaseDriver
  /-- No data source is named. -/
  | missingDataSource
  /-- No stored dashboard has the slug. -/
  | dashboardNotStored
  /-- A dashboard to store is invalid. -/
  | invalidDashboard
  /-- A list page or page size is invalid. -/
  | invalidPage
  /-- The fixture application has no credentials. -/
  | missingFixtureCredentials
  /-- The fixture page size is not positive. -/
  | invalidPageSize
  /-- The fixture application has no session secret. -/
  | missingSessionSecret
  /-- No element matches a selector. -/
  | elementNotFound
  /-- An element is not visible. -/
  | elementNotVisible
  /-- A wait timed out. -/
  | timeout
  /-- The browser driver is not supported. -/
  | unsupportedDriver
  /-- A selector is invalid. -/
  | invalidSelector
  /-- The page is closed. -/
  | pageClosed
  /-- The surrounding request was cancelled. -/
  | canceled
  deriving DecidableEq, Repr, Inhabited

/-- Every kind, in the order in which a failure lists the kinds it has. -/
def Kind.all : List Kind :=
  [.dashboardNotListed, .unexpectedPage, .connectionFailed, .datasetFailed, .deletionIncomplete,
   .invalidChartClick, .canvasNotVisible, .degenerateCanvas, .tooltipAlreadyVisible,
   .tooltipNotFound, .invalidProbeOptions, .missingContainer, .titleMismatch,
   .landingNotReached, .missingBrowser, .invalidApplicationUrl, .missingCredentials,
   .invalidTimeout, .invalidPageLimit, .missingDriverName, .missingDatabaseDriver,
   .unsupportedDatabaseDriver, .missingDataSource, .dashboardNotStored, .invalidDashboard,
   .invalidPage, .missingFixtureCredentials, .invalidPageSize, .missingSessionSecret,
   .elementNotFound, .elementNotVisible, .timeout, .unsupportedDriver, .invalidSelector,
   .pageClosed, .canceled]

/-- The words of a kind when it stands alone. -/
def Kind.text : Kind → String
  | .dashboardNotListed => "superset: dashboard not found"
  | .unexpectedPage => "superset: unexpected page"
  | .connectionFailed => "superset: database connection not created"
  | .datasetFailed => "superset: dataset not created"
  | .deletionIncomplete => "superset: deletion incomplete"
  | .invalidChartClick => "superset: invalid chart click"
  | .canvasNotVisible => "probe: canvas not visible"
  | .degenerateCanvas => "probe: canvas has no area"
  | .tooltipAlreadyVisible => "probe: tooltip visible before probing"
  | .tooltipNotFound => "probe: tooltip never appeared"
  | .invalidProbeOptions => "probe: invalid options"
  | .missingContainer => "probe: container selector is required"
  | .titleMismatch => "session: unexpected page title"
  | .landingNotReached => "session: landing page not reached"
  | .missingBrowser => "session: browser is required"
  | .invalidApplicationUrl => "config: invalid application url"
  | .missingCredentials => "config: missing credentials"
  | .invalidTimeout => "config: timeout must be positive"
  | .invalidPageLimit => "config: dashboard page limit must be positive"
  | .missingDriverName => "config: missing driver name"
  | .missingDatabaseDriver => "storage: missing database driver name"
  | .unsupportedDatabaseDriver => "storage: unsupported database driver"
  | .missingDataSource => "storage: missing database data source name"
  | .dashboardNotStored => "storage: dashboard not found"
  | .invalidDashboard => "storage: invalid dashboard"
  | .invalidPage => "storage: invalid page"
  | .missingFixtureCredentials => "fixtureapp: username and password are required"
  | .invalidPageSize => "fixtureapp: page size must be positive"
  | .missingSessionSecret => "fixtureapp: session secret is required"
  | .elementNotFound => "browser: element not found"
  | .elementNotVisible => "browser: element not visible"
  | .timeout => "browser: timed out"
  | .unsupportedDriver => "browser: unsupported driver"
  | .invalidSelector => "browser: invalid selector"
  | .pageClosed => "browser: page closed"
  | .canceled => "context canceled"

/-- A failure and the failures it was caused by. -/
inductive Failure where
  /-- A kind on its own. -/
  | kind (k : Kind)
  /-- A failure known only by its text. -/
  | raised (text : String)
  /-- A kind with words that say more: "kind: detail". -/
  | detail (k : Kind) (text : String)
  /-- A stage's words in front of the failure that caused it: "words: cause". -/
  | context (text : String) (cause : Failure)
  /-- A kind with words, caused by another failure: "kind: detail: cause". -/
  | detailCause (k : Kind) (text : String) (cause : Failure)
  deriving DecidableEq, Repr, Inhabited

namespace Failure

/-- The message of a failure. -/
def message : Failure → String
  | .kind k => k.text
  | .raised text => text
  | .detail k text => k.text ++ ": " ++ text
  | .context text cause => text ++ ": " ++ cause.message
  | .detailCause k text cause => k.text ++ ": " ++ text ++ ": " ++ cause.message

/-- Whether a kind stands anywhere in the chain of causes. -/
def hasKind : Failure → Kind → Bool
  | .kind k, q => k == q
  | .raised _, _ => false
  | .detail k _, q => k == q
  | .context _ cause, q => cause.hasKind q
  | .detailCause k _ cause, q => k == q || cause.hasKind q

/-- The kinds a failure has, in the order of `Kind.all`. -/
def kinds (f : Failure) : List Kind :=
  Kind.all.filter f.hasKind

/-- A failure stands in the chain of causes of another: it is that failure, or it stands in
the chain of the cause that the other carries. -/
inductive Wraps : Failure → Failure → Prop where
  | refl (f : Failure) : Wraps f f
  | context (text : String) {cause g : Failure} : Wraps cause g → Wraps (.context text cause) g
  | detailCause (k : Kind) (text : String) {cause g : Failure} :
      Wraps cause g → Wraps (.detailCause k text cause) g

end Failure

end DashboardHarness
