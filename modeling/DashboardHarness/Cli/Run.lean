import DashboardHarness.Cli.Commands
import DashboardHarness.Cli.Completion
import DashboardHarness.Cli.Script.Bash
import DashboardHarness.Cli.Script.Fish
import DashboardHarness.Cli.Script.PowerShell
import DashboardHarness.Cli.Script.Zsh
import DashboardHarness.Settings.Load
import DashboardHarness.Browser.Launch
import DashboardHarness.Probe.Options
import DashboardHarness.Web.Address
import DashboardHarness.Fixture.RouteTable

/-!
# Running the program

A run first applies the environment to the settings flags, each variable that is present to its
flag in a fixed order; a value that does not read stops the run with
`failed to configure command: failed to apply environment configuration: …`. Then it finds the
command, reads the flags, and shows the help when asked for or when the command does nothing of
its own. Otherwise the command runs:

- `login` loads the settings from the flags and starts a browser of the configured driver;
- `probe` needs `--dashboard` and `--container`, checks its options, and then does what `login`
  does, or, with a positive `--every`, loads the settings and probes on that interval;
- `fixture` serves the imitation application on `--addr`, after the web framework has listed
  its routes on the output in debug mode;
- `help` shows the help of the command its arguments name;
- a shell of `completion` writes its completion script, whose requests leave out descriptions
  under `--no-descriptions`;
- the request command answers the completion request of its arguments, and needs at least one.

A failure is written to the error output as one line and ends the run with exit code 1. Runs that
would start a browser, serve or keep probing are told apart from the finished ones, since they
do not end on their own.

Main definitions:

- `run`: a run of the program: the environment applied to the settings flags, the command found,
  its flags read, and then the command executed or its help printed.
- `applyEnvironment`, `settingText`: the settings flags set from the environment, and the texts
  that loading the settings reads from them.
- `probeRun`: the probe command.
-/

namespace DashboardHarness.Cli

/-- What a run of the program comes to. -/
inductive Outcome where
  /-- The run ended with an exit code and the texts it wrote to the output and error output. -/
  | finished (exitCode : Nat) (output errors : String)
  /-- The run would start a browser. -/
  | launchesBrowser
  /-- The run would serve the imitation application on an address. -/
  | serves (address : String)
  /-- The run would keep probing on an interval. -/
  | watches

/-- A run that ends with a failure message. -/
def failed (message : String) : Outcome := .finished 1 "" (message ++ "\n")

/-- A run that ends by writing a text to the output. -/
def printed (text : String) : Outcome := .finished 0 text ""

/-- The environment variables of the settings flags, in the order they are applied. -/
def environmentFlags : List (String × String) :=
  [("TEST_URL", "url"), ("TEST_USERNAME", "username"), ("TEST_PASSWORD", "password"),
   ("TEST_WFS", "wfs"), ("TEST_DRIVER", "driver"), ("TEST_HEADLESS", "headless"),
   ("CHROME_PATH", "chrome-path"), ("TEST_ACTION_TIMEOUT", "action-timeout"),
   ("TEST_NETWORK_IDLE_TIMEOUT", "network-idle-timeout"), ("TEST_MAX_PAGES", "max-pages"),
   ("DASHPROBE_VERBOSE", "verbose")]

/-- Sets the settings flags from the environment variables that are present. -/
def applyEnvironment (env : String → Option String) : List (String × String) → Setting →
    Except String Setting
  | [], set => .ok set
  | (key, flagName) :: rest, set =>
    match env key, findFlag settingsFlags flagName with
    | some value, some f =>
      match setFlag set f value with
      | .ok set => applyEnvironment env rest set
      | .error e => .error ("failed to apply environment configuration: " ++ e)
    | _, _ => applyEnvironment env rest set

/-- The text of a setting: the value of its flag when the flag was set. -/
def settingText (set : Setting) (key : String) : Option String :=
  match environmentFlags.find? (·.1 == key) with
  | some (_, flagName) => (Keyed.get? flagName set).map FlagValue.shown
  | none => none

/-- Loads the settings from the flags and starts a browser of the configured driver. -/
def startBrowser (set : Setting) : Outcome :=
  match Settings.load (settingText set) with
  | .error f => failed ("load configuration: " ++ f.message)
  | .ok s =>
    match chooseDriver s.driverName with
    | .error f => failed ("launch browser: " ++ f.message)
    | .ok _ => .launchesBrowser

/-- The failure of a command that takes no arguments but was given some. -/
def rejectArguments (args : List String) : Option String :=
  if args.isEmpty then none else some ("unexpected command arguments: " ++ " ".intercalate args)

/-- The text value of a flag of a command. -/
def textValue (set : Setting) (c : Command) (name : String) : String :=
  match (findFlag (flagsOf c) name).map (valueOf set) with
  | some (.text s) => s
  | _ => ""

/-- The probe command. -/
def probeRun (set : Setting) : Outcome :=
  let missing := ["dashboard", "container"].filter fun name =>
    Text.isBlankText (textValue set .probe name)
  if !missing.isEmpty then
    .finished 1 "" (usageText .probe ++ "missing required configuration: " ++
      ", ".intercalate missing ++ "\n")
  else
    let step : Float := match (findFlag (flagsOf .probe) "step").map (valueOf set) with
      | some (.decimal x) => x
      | _ => 10
    let zoomClicks : Int := match (findFlag (flagsOf .probe) "zoom-clicks").map (valueOf set) with
      | some (.integer n) => n
      | _ => 3
    let every : Int := match (findFlag (flagsOf .probe) "every").map (valueOf set) with
      | some (.duration n) => n
      | _ => 0
    match ({ step := step, zoomClicks := zoomClicks } : ProbeOptions).validate with
    | .error f => failed ("configure probe: " ++ f.message)
    | .ok () =>
      if every ≤ 0 then startBrowser set
      else
        match Settings.load (settingText set) with
        | .error f => failed ("load configuration: " ++ f.message)
        | .ok _ => .watches

/-- The fixture command: build the imitation application, which lists its routes in debug mode,
and serve it on the address. -/
def fixtureRun (debug : Bool) (set : Setting) : Outcome :=
  let address := textValue set .fixture "addr"
  let listing := if debug then Fixture.debugListing else ""
  match Web.listenProblem Web.loopbackMachine address with
  | some problem => .finished 1 listing ("listen: " ++ problem ++ "\n")
  | none => .serves address

/-- The completion script of a shell, asking for completions with a request command. -/
def completionScript (shell request : String) : String :=
  if shell = "bash" then bashScript request
  else if shell = "zsh" then zshScript request
  else if shell = "fish" then fishScript request
  else powershellScript request

/-- The run of a shell of `completion`: its script, whose requests leave out descriptions when
the flag says so. -/
def scriptRun (shell : String) (set : Setting) : Outcome :=
  let plain := match Keyed.get? "no-descriptions" set with
    | some (.switch true) => true
    | _ => false
  printed (completionScript shell (if plain then "__completeNoDesc" else "__complete"))

/-- The run of the request command, named by the word `asked`, with the words typed so far: the
answer to the request. -/
def requestRun (env : String → Option String) (set : Setting) (asked : String)
    (words : List String) : Outcome :=
  if words.isEmpty then failed "requires at least 1 arg(s), only received 0"
  else
    let answer := answerRequest set words
    .finished 0 (answer.output (showsDescriptions env (requestWord asked words))) answer.errors

/-- A list of words as the help command names an unknown topic: each in back quotes when it can
stand there, else in double quotes. -/
def topicText (words : List String) : String :=
  "[" ++ " ".intercalate (words.map fun w =>
    if Text.canBackquote w then "\x60" ++ w ++ "\x60" else Text.quote w) ++ "]"

/-- The help command: the help of the command its arguments name; for an unknown topic, the
usage of the root command, which has not run and so lists no help flag. -/
def helpRun (args : List String) : Outcome :=
  match findCommand false args with
  | .ok (target, _) => printed (helpText target)
  | .error _ =>
    .finished 0 "" ("Unknown help topic " ++ topicText args ++ "\n" ++ usageWith false .root)

/-- Runs a command with its flags and arguments; `debug` tells whether the web framework runs in
debug mode. -/
def execute (debug : Bool) (c : Command) (set : Setting) (args : List String) : Outcome :=
  match c with
  | .login =>
    match rejectArguments args with
    | some e => failed e
    | none => startBrowser set
  | .probe =>
    match rejectArguments args with
    | some e => failed e
    | none => probeRun set
  | .fixture =>
    match rejectArguments args with
    | some e => failed e
    | none => fixtureRun debug set
  | .help => helpRun args
  | .shell s =>
    match args with
    | word :: _ => failed ("unknown command " ++ Text.quote word ++ " for " ++ Text.quote c.path)
    | [] => scriptRun s set
  | _ => printed (helpText c)

/-- Whether the help flag was given. -/
def helpAsked (set : Setting) : Bool :=
  match Keyed.get? "help" set with
  | some (.switch true) => true
  | _ => false

/-- Runs the program with an environment and the command-line arguments. -/
def run (env : String → Option String) (args : List String) : Outcome :=
  match applyEnvironment env environmentFlags [] with
  | .error e => failed ("failed to configure command: " ++ e)
  | .ok initial =>
    match findCommand true args with
    | .error e => failed e
    | .ok (.request, words) =>
      requestRun env initial ((commandWords (findingFlags .root) args).headD "") words
    | .ok (c, rest) =>
      match readFlags (flagsOf c) (rest.length + 1) ⟨initial, []⟩ rest with
      | .error e => failed e
      | .ok r =>
        if helpAsked r.setting || !c.runnable then printed (helpText c)
        else execute (Fixture.debugMode (env "GIN_MODE")) c r.setting r.args

end DashboardHarness.Cli
