import DashboardHarness.Settings.Basic
import DashboardHarness.Text.Case
import DashboardHarness.Failure

/-!
# Launching a browser

The options a browser starts with come from the settings, and the driver is chosen by name:
the name is trimmed and lowered, and the empty name stands for the default driver. Three drivers
are known; any other name is refused.

Main definitions:

- `LaunchOptions.ofSettings`: the options a browser starts with, taken from the settings.
- `chooseDriver`: the driver a name selects once trimmed and lowered; the empty name selects
  `chromedp`, an unknown one is refused.
-/

namespace DashboardHarness

/-- The options a browser starts with. -/
structure LaunchOptions where
  /-- The driver name. -/
  driverName : String
  /-- Whether the browser runs without a window. -/
  headless : Bool
  /-- The browser binary, or empty for the driver's own. -/
  executablePath : String
  /-- The viewport width, or zero for the default. -/
  viewportWidth : Int := 0
  /-- The viewport height, or zero for the default. -/
  viewportHeight : Int := 0
  /-- How long to wait for an element, in nanoseconds. -/
  actionTimeout : Int
  /-- How long to wait for the network, in nanoseconds. -/
  networkIdleTimeout : Int

/-- The launch options that the settings ask for. -/
def LaunchOptions.ofSettings (s : Settings) : LaunchOptions :=
  { driverName := s.driverName, headless := s.headless, executablePath := s.browserExecutable,
    actionTimeout := s.actionTimeout, networkIdleTimeout := s.networkIdleTimeout }

/-- The browser drivers that can be launched. -/
inductive BrowserDriver where
  /-- Chrome over the DevTools protocol. -/
  | chromedp
  /-- Chromium through the Playwright runtime. -/
  | playwright
  /-- Chrome over the DevTools protocol, by another client. -/
  | rod
  deriving DecidableEq, Repr

/-- The driver a name chooses: trimmed and lowered, empty for the default; unknown names are
refused with the normalized name. -/
def chooseDriver (name : String) : Except Failure BrowserDriver :=
  match Text.lower (Text.trimBlank name) with
  | "" => .ok .chromedp
  | "chromedp" => .ok .chromedp
  | "playwright" => .ok .playwright
  | "rod" => .ok .rod
  | other => .error (.detail .unsupportedDriver other)

end DashboardHarness
