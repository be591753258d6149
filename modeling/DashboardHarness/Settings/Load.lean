import DashboardHarness.Settings.Validate
import DashboardHarness.Text.Duration
import DashboardHarness.Text.Case
import DashboardHarness.Text.Search

/-!
# Loading settings from text

Settings come as text under fixed keys, from the environment or from a configuration store; a
key that is not given keeps its default. The texts are read leniently, a text that does not
read giving the zero value: a truth value must be one of the exact words; a duration without
any unit letter is taken as nanoseconds; an integer may end in a point followed by zeros. The
loaded settings are normalized (the URL trimmed and ending in exactly one slash, the user name,
endpoint and executable trimmed, the driver name trimmed and lowered) and must be valid.

Main definitions:

- `Settings.load`: the settings loaded from the texts under their keys, each read leniently;
  absent keys keep their defaults.
- `Settings.fromEnvironment`: the settings loaded from the environment, empty variables passed
  over.
-/

namespace DashboardHarness

/-- The keys of the settings, in the order of the fields. -/
def settingKeys : List String :=
  ["TEST_URL", "TEST_USERNAME", "TEST_PASSWORD", "TEST_WFS", "TEST_DRIVER", "TEST_HEADLESS",
   "CHROME_PATH", "TEST_ACTION_TIMEOUT", "TEST_NETWORK_IDLE_TIMEOUT", "TEST_MAX_PAGES"]

/-- A truth value read leniently: false unless it reads as true. -/
def lenientBool (s : String) : Bool :=
  match Text.readBool s with
  | .ok b => b
  | .error _ => false

/-- A duration read leniently: a text without unit letters is nanoseconds; zero when it does
not read. -/
def lenientDuration (s : String) : Int :=
  let text := if s.toList.any (fun c => "nsuµmh".toList.contains c) then s else s ++ "ns"
  match Text.readDuration text with
  | .ok d => d
  | .error _ => 0

/-- Scans from the end over points and zeros; the first point after a zero is cut with
everything behind it, and any other character ends the scan with nothing cut. -/
def zeroFractionStart (foundZero : Bool) : List Char → Option (List Char)
  | [] => none
  | c :: rest =>
    if c = '.' then (if foundZero then some rest else zeroFractionStart foundZero rest)
    else if c = '0' then zeroFractionStart true rest
    else none

/-- A text without a trailing point followed by zeros (points after the zeros included). -/
def trimZeroFraction (s : String) : String :=
  match zeroFractionStart false s.toList.reverse with
  | some keptReversed => String.ofList keptReversed.reverse
  | none => s

/-- An integer read leniently, after a trailing point and zeros are cut; zero when it does not
read. -/
def lenientInt (s : String) : Int :=
  match Text.readInt (trimZeroFraction s) with
  | .ok n => n
  | .error _ => 0

/-- The application URL trimmed, and ending in exactly one slash unless empty. -/
def normalizeUrl (s : String) : String :=
  let t := Text.trimBlank s
  if t = "" then "" else Text.trimEnd '/' t ++ "/"

/-- Settings loaded from the texts under their keys; absent keys keep their defaults. -/
def Settings.load (text : String → Option String) : Except Failure Settings :=
  let d : Settings := {}
  let str := fun k dflt => (text k).getD dflt
  let s : Settings :=
    { applicationUrl := normalizeUrl (str "TEST_URL" d.applicationUrl)
      username := Text.trimBlank (str "TEST_USERNAME" d.username)
      password := str "TEST_PASSWORD" d.password
      wfsEndpoint := Text.trimBlank (str "TEST_WFS" d.wfsEndpoint)
      driverName := Text.lower (Text.trimBlank (str "TEST_DRIVER" d.driverName))
      headless := ((text "TEST_HEADLESS").map lenientBool).getD d.headless
      browserExecutable := Text.trimBlank (str "CHROME_PATH" d.browserExecutable)
      actionTimeout := ((text "TEST_ACTION_TIMEOUT").map lenientDuration).getD d.actionTimeout
      networkIdleTimeout :=
        ((text "TEST_NETWORK_IDLE_TIMEOUT").map lenientDuration).getD d.networkIdleTimeout
      maxDashboardPages := ((text "TEST_MAX_PAGES").map lenientInt).getD d.maxDashboardPages }
  match s.validate with
  | .ok () => .ok s
  | .error f => .error f

/-- Settings loaded from environment variables, where an empty variable counts as absent. -/
def Settings.fromEnvironment (env : String → Option String) : Except Failure Settings :=
  Settings.load fun k => match env k with
    | some "" => none
    | v => v

end DashboardHarness
