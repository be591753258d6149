import DashboardHarness.Text.Blank

/-!
# Harness settings

Where the deployment under test lives, how to log in, which WFS endpoint to register, which
browser driver to use and how long to wait. Durations are whole nanoseconds. Pages of the
deployment are addressed relative to the application URL, which ends in a slash.

Main definitions:

- `Settings`: the settings of a run.
- `Settings.resolve`: the URL of a page of the deployment.
-/

namespace DashboardHarness

/-- One second in nanoseconds. -/
def nanosPerSecond : Int := 1000000000

/-- One millisecond in nanoseconds. -/
def nanosPerMilli : Int := 1000000

/-- The settings of a harness run. -/
structure Settings where
  /-- The root URL of the deployment. -/
  applicationUrl : String := "http://localhost:8088/"
  /-- The login user name. -/
  username : String := "admin"
  /-- The login password. -/
  password : String := "admin"
  /-- The WFS endpoint registered as a database. -/
  wfsEndpoint : String :=
    "wfs://geodienste.leipzig.de/l3/OpenData/wfs?REQUEST=GetCapabilities&SERVICE=WFS"
  /-- The browser driver. -/
  driverName : String := "chromedp"
  /-- Whether the browser runs without a window. -/
  headless : Bool := true
  /-- The browser binary to launch, or empty for the driver's own. -/
  browserExecutable : String := ""
  /-- How long to wait for an element, in nanoseconds. -/
  actionTimeout : Int := 10 * nanosPerSecond
  /-- How long to wait for the network to settle, in nanoseconds. -/
  networkIdleTimeout : Int := 30 * nanosPerSecond
  /-- How many dashboard list pages to search. -/
  maxDashboardPages : Int := 50
  deriving Inhabited, Repr

/-- The URL of a page of the deployment: the application URL followed by the path without its
leading slashes. -/
def Settings.resolve (s : Settings) (path : String) : String :=
  s.applicationUrl ++ Text.trimStart '/' path

end DashboardHarness
