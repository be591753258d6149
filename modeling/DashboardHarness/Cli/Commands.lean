import DashboardHarness.Cli.Flags
import DashboardHarness.Text.Case

/-!
# The command tree

The program has a root command with the settings flags, which every command inherits, and the
commands `login`, `probe` and `fixture`, a `help` command and a `completion` command with one
command a shell. Every command also has its own `-h, --help` flag. A hidden request command,
`__complete` or `__completeNoDesc`, answers the completion requests of a shell; it sits under the
root only while the words of a run are being matched to a command, and only a run that names it
finds it.

Finding the command of an argument list walks down the tree by the words that are not flags or
flag values; a flag that takes a value and has no `=` takes the next argument, and an unknown flag
counts as taking one. A word that names no command under the root is an unknown command, with
suggestions of commands whose name is close to it or starts with it.

Flags are then read in the order given: `--name=value`, `--name value`, `--switch`, shorthand
groups such as `-vh`, and `--` ends the flags; the other words are the arguments of the command.

Main definitions:

- `findCommand`: the command an argument list names, found by walking down the tree along its
  command words, with the arguments left for it.
- `readFlags`, `readShorthands`: the flags of a command read from its arguments, long flags and
  shorthand groups, the other arguments kept in order.
- `helpText`: the help of a command, its description and then its usage.
-/

namespace DashboardHarness.Cli

/-- The name of the program. -/
def programName : String := "dashprobe"

/-- The commands of the program. -/
inductive Command where
  | root
  | login
  | probe
  | fixture
  | help
  | completion
  | shell (name : String)
  | request
  deriving DecidableEq, Repr

/-- The shells that completion scripts are written for. -/
def shells : List String := ["bash", "fish", "powershell", "zsh"]

namespace Command

/-- The name of a command. -/
def name : Command → String
  | .root => programName
  | .login => "login"
  | .probe => "probe"
  | .fixture => "fixture"
  | .help => "help"
  | .completion => "completion"
  | .shell s => s
  | .request => "__complete"

/-- The other names a command answers to. -/
def aliases : Command → List String
  | .request => ["__completeNoDesc"]
  | _ => []

/-- Whether a word names a command, by its name or another name. -/
def answersTo (c : Command) (word : String) : Bool :=
  c.name == word || c.aliases.contains word

/-- The command a command sits under. -/
def parent : Command → Option Command
  | .root => none
  | .shell _ => some .completion
  | _ => some .root

/-- The commands under a command, in the order they were added. -/
def children : Command → List Command
  | .root => [.login, .probe, .fixture, .help, .completion]
  | .completion => shells.map .shell
  | _ => []

/-- The commands under a command as matching words to commands sees them: while a completion
request is answered, the request command sits under the root as well. -/
def reachable (requesting : Bool) (c : Command) : List Command :=
  if requesting && c == .root then c.children ++ [.request] else c.children

/-- The words naming a command from the root. -/
def path : Command → String
  | .root => programName
  | .shell s => programName ++ " completion " ++ s
  | c => programName ++ " " ++ c.name

/-- The one-line description of a command. -/
def short : Command → String
  | .root => "Drive a dashboard deployment from a headless browser"
  | .login => "Log in and print the landing page URL"
  | .probe => "Open a dashboard and hover a map canvas until its tooltip shows"
  | .fixture => "Serve the fixture dashboard application"
  | .help => "Help about any command"
  | .completion => "Generate the autocompletion script for the specified shell"
  | .shell s => "Generate the autocompletion script for " ++ s
  | .request => "Request shell completion choices for the specified command-line"

/-- How to load the completion script of a shell, as its help says. -/
def shellLong (shell : String) : String :=
  let p := programName
  if shell = "bash" then
    "Generate the autocompletion script for the bash shell.\n\n" ++
    "This script depends on the \x27bash-completion\x27 package.\n" ++
    "If it is not installed already, you can install it via your OS\x27s package manager.\n\n" ++
    "To load completions in your current shell session:\n\n" ++
    "\tsource <(" ++ p ++ " completion bash)\n\n" ++
    "To load completions for every new session, execute once:\n\n" ++
    "#### Linux:\n\n" ++
    "\t" ++ p ++ " completion bash > /etc/bash_completion.d/" ++ p ++ "\n\n" ++
    "#### macOS:\n\n" ++
    "\t" ++ p ++ " completion bash > $(brew --prefix)/etc/bash_completion.d/" ++ p ++ "\n\n" ++
    "You will need to start a new shell for this setup to take effect.\n"
  else if shell = "zsh" then
    "Generate the autocompletion script for the zsh shell.\n\n" ++
    "If shell completion is not already enabled in your environment you will need\n" ++
    "to enable it.  You can execute the following once:\n\n" ++
    "\techo \"autoload -U compinit; compinit\" >> ~/.zshrc\n\n" ++
    "To load completions in your current shell session:\n\n" ++
    "\tsource <(" ++ p ++ " completion zsh)\n\n" ++
    "To load completions for every new session, execute once:\n\n" ++
    "#### Linux:\n\n" ++
    "\t" ++ p ++ " completion zsh > \"$\x7bfpath[1]\x7d/_" ++ p ++ "\"\n\n" ++
    "#### macOS:\n\n" ++
    "\t" ++ p ++ " completion zsh > $(brew --prefix)/share/zsh/site-functions/_" ++ p ++ "\n\n" ++
    "You will need to start a new shell for this setup to take effect.\n"
  else if shell = "fish" then
    "Generate the autocompletion script for the fish shell.\n\n" ++
    "To load completions in your current shell session:\n\n" ++
    "\t" ++ p ++ " completion fish | source\n\n" ++
    "To load completions for every new session, execute once:\n\n" ++
    "\t" ++ p ++ " completion fish > ~/.config/fish/completions/" ++ p ++ ".fish\n\n" ++
    "You will need to start a new shell for this setup to take effect.\n"
  else
    "Generate the autocompletion script for powershell.\n\n" ++
    "To load completions in your current shell session:\n\n" ++
    "\t" ++ p ++ " completion powershell | Out-String | Invoke-Expression\n\n" ++
    "To load completions for every new session, add the output of the above command\n" ++
    "to your powershell profile.\n"

/-- The description of a command in its help, when longer than the one-line one. -/
def long : Command → String
  | .root => "Log into a dashboard deployment, open dashboards, and probe map canvases for interactive features"
  | .help => "Help provides help for any command in the application.\nSimply type " ++ programName ++
      " help [path to command] for full details."
  | .completion => "Generate the autocompletion script for " ++ programName ++
      " for the specified shell.\nSee each sub-command\x27s help for details on how to use the generated script.\n"
  | .shell s => shellLong s
  | .request => "__complete is a special command that is used by the shell completion logic\n" ++
      "to request completion choices for the specified command-line."
  | _ => ""

/-- How a command is written in its usage line, before any flags. -/
def useText : Command → String
  | .help => "help [command]"
  | .request => "__complete [command-line]"
  | c => c.name

/-- Whether the usage line of a command ends in `[flags]`: the completion scripts leave it out. -/
def showsFlagsInUse : Command → Bool
  | .shell _ => false
  | .request => false
  | _ => true

/-- Whether a command does something of its own; the others show their help. -/
def runnable : Command → Bool
  | .root => false
  | .completion => false
  | _ => true

/-- Whether a command is listed among the commands of its parent. -/
def listed : Command → Bool
  | .help => false
  | .request => false
  | _ => true

end Command

/-- A duration flag. -/
def durationFlag (name defaultText usage : String) : Flag :=
  { name := name, type := .duration, defaultText := defaultText, usage := usage }

/-- A text flag. -/
def textFlag (name defaultText usage : String) : Flag :=
  { name := name, type := .text, defaultText := defaultText, usage := usage }

/-- The settings flags of the root, which every command inherits. -/
def settingsFlags : List Flag :=
  [textFlag "url" "http://localhost:8088/" "root URL of the dashboard application",
   textFlag "username" "admin" "login user name",
   textFlag "password" "admin" "login password",
   textFlag "wfs" "wfs://geodienste.leipzig.de/l3/OpenData/wfs?REQUEST=GetCapabilities&SERVICE=WFS"
     "WFS endpoint used for database connections",
   textFlag "driver" "chromedp" "browser driver: chromedp, playwright or rod",
   { name := "headless", type := .switch, defaultText := "true",
     usage := "run the browser without a window" },
   textFlag "chrome-path" "" "browser binary to launch",
   durationFlag "action-timeout" "10s" "how long to wait for an element",
   durationFlag "network-idle-timeout" "30s" "how long to wait for the network to settle",
   { name := "max-pages", type := .integer, defaultText := "50",
     usage := "dashboard list pages searched before giving up" },
   { name := "verbose", shorthand := some 'v', type := .switch, defaultText := "false",
     usage := "log at debug level" }]

/-- The flags a command defines itself, without its help flag. -/
def ownFlags : Command → List Flag
  | .root => settingsFlags
  | .probe =>
    [textFlag "dashboard" "" "dashboard title as shown in the dashboard list",
     textFlag "container" "" "CSS selector of the chart container, for example #chart-id-1314",
     { name := "step", type := .decimal, defaultText := "10", usage := "grid step in pixels" },
     { name := "zoom-clicks", type := .integer, defaultText := "3",
       usage := "zoom-in clicks before sweeping" },
     durationFlag "every" "0s" "repeat the probe on this interval until interrupted"]
  | .fixture => [textFlag "addr" ":8088" "address for the fixture server to listen on"]
  | .shell _ =>
    [{ name := "no-descriptions", type := .switch, defaultText := "false",
       usage := "disable completion descriptions" }]
  | _ => []

/-- The flags a command inherits from the root. -/
def inheritedFlags : Command → List Flag
  | .root => []
  | _ => settingsFlags

/-- The help flag of a command. -/
def helpFlag (c : Command) : Flag :=
  { name := "help", shorthand := some 'h', type := .switch, defaultText := "false",
    usage := "help for " ++ c.name }

/-- The flags a command reads: its own, its help flag and the inherited ones. -/
def flagsOf (c : Command) : List Flag := ownFlags c ++ [helpFlag c] ++ inheritedFlags c

/-! ## Finding the command -/

/-- Whether an argument is a flag that takes the next argument as its value: a long flag other
than a switch, or a dash and one byte that is no switch's shorthand; a dash with one character
of several bytes is neither. -/
def takesNext (flags : List Flag) (s : String) : Bool :=
  if s.startsWith "--" && !s.toList.contains '=' &&
      !(match findFlag flags (String.ofList (s.toList.drop 2)) with
        | some f => f.isSwitch
        | none => false) then true
  else if s.startsWith "-" && !s.toList.contains '=' && s.utf8ByteSize == 2 &&
      !(match s.toList with
        | [_, c] => (match findShorthand flags c with
          | some f => f.isSwitch
          | none => false)
        | _ => false) then true
  else false

/-- The words of an argument list that may name commands: not flags, not flag values. -/
def commandWords (flags : List Flag) : List String → List String
  | [] => []
  | s :: rest =>
    if s = "--" then []
    else if takesNext flags s then
      match rest with
      | [] => []
      | [_] => []
      | _ :: more => commandWords flags more
    else if !s.isEmpty && !s.startsWith "-" then s :: commandWords flags rest
    else commandWords flags rest

/-- The argument list without the first word `x` that names a command. -/
def dropWord (flags : List Flag) (x : String) : List String → List String
  | [] => []
  | s :: rest =>
    if s = "--" then s :: rest
    else if takesNext flags s then
      match rest with
      | [] => [s]
      | v :: more => s :: v :: dropWord flags x more
    else if !s.startsWith "-" && s = x then rest
    else s :: dropWord flags x rest

/-- The flags that finding a command knows of: the help flags come later. -/
def findingFlags (c : Command) : List Flag := ownFlags c ++ inheritedFlags c

/-- The command under a command that a word names. -/
def childNamed (requesting : Bool) (c : Command) (word : String) : Option Command :=
  (c.reachable requesting).find? (·.answersTo word)

/-- Walks down the tree from a command by the command words of the arguments. -/
def descend (requesting : Bool) : Nat → Command → List String → Command × List String
  | 0, c, args => (c, args)
  | fuel + 1, c, args =>
    match commandWords (findingFlags c) args with
    | [] => (c, args)
    | word :: _ =>
      match childNamed requesting c word with
      | some d => descend requesting fuel d (dropWord (findingFlags c) word args)
      | none => (c, args)

/-- The next row of the edit distance table, for one more byte `x` of the first text, given the
row before it. -/
def distanceRow (ys : List Nat) (x : Nat) (prev : List Nat) : List Nat :=
  let start := prev.headD 0 + 1
  let cells := (ys.zip (prev.zip (prev.drop 1))).foldl (fun (acc : List Nat × Nat) cell =>
    let (y, diagonal, above) := cell
    let v := if x == y then diagonal else min (min above acc.2) diagonal + 1
    (v :: acc.1, v)) ([start], start)
  cells.1.reverse

/-- The UTF-8 bytes of a text. -/
def textBytes (s : String) : List Nat := s.toList.flatMap Text.utf8Bytes

/-- The edit distance of two texts, ignoring case, counted in bytes. -/
def editDistance (a b : String) : Nat :=
  let xs := textBytes (Text.lower a)
  let ys := textBytes (Text.lower b)
  (xs.foldl (fun prev x => distanceRow ys x prev) (List.range (ys.length + 1))).getLastD 0

/-- The commands under the root that a mistyped word may have meant. -/
def suggestionsFor (word : String) : List String :=
  (Command.root.children.filter (·.listed)).filterMap fun c =>
    if editDistance word c.name ≤ 2 || (Text.lower c.name).startsWith (Text.lower word)
    then some c.name else none

/-- The failure for a word that names no command under the root. -/
def unknownCommand (word : String) : String :=
  let suggestions := suggestionsFor word
  "unknown command " ++ Text.quote word ++ " for " ++ Text.quote programName ++
    (if suggestions.isEmpty then ""
     else "\n\nDid you mean this?\n" ++ String.join (suggestions.map fun s => "\t" ++ s ++ "\n"))

/-- The command of an argument list with the arguments left for it, or the failure of a word
that names no command; `requesting` tells whether the request command can be found. -/
def findCommand (requesting : Bool) (args : List String) : Except String (Command × List String) :=
  let (c, rest) := descend requesting 3 .root args
  if c = .root then
    match commandWords (findingFlags .root) rest with
    | word :: _ => .error (unknownCommand word)
    | [] => .ok (c, rest)
  else .ok (c, rest)

/-! ## Reading flags -/

/-- Flags read so far and the arguments left over. -/
structure Reading where
  setting : Setting
  args : List String

/-- A shorthand letter in single quotes, the way one that names no flag is shown. The letter is
looked up by its first byte, that byte is taken as a character and written in UTF-8, and the
first byte of that is quoted: an ASCII letter shows as itself, and any other as `Ã`. -/
def quoteLeadByte (c : Char) : String :=
  let firstByte := (Text.utf8Bytes c).headD 0
  let lead := Char.ofNat ((Text.utf8Bytes (Char.ofNat firstByte)).headD 0)
  let inside := if lead = '\x27' then ['\\', '\x27']
    else if lead = '"' then ['"']
    else Text.quoteChar lead
  String.ofList ('\x27' :: inside ++ ['\x27'])

/-- Reads a shorthand group such as `-vh`, given the arguments after it. A truth value reads
the next letter as the next flag; any other flag takes the rest of the group, after an optional
`=`, or else the next argument. The rest of a group from `test.` on is left alone, since it
names a setting of the test runner. -/
def readShorthands (flags : List Flag) (setting : Setting) :
    List Char → List String → Except String (Setting × List String)
  | [], rest => .ok (setting, rest)
  | c :: more, rest =>
    if "test.".toList.isPrefixOf (c :: more) then .ok (setting, rest)
    else
      match findShorthand flags c with
      | none =>
        .error ("unknown shorthand flag: " ++ quoteLeadByte c ++ " in -" ++ String.ofList (c :: more))
      | some f =>
        let finish := fun (value : String) (after : List String) =>
          (setFlag setting f value).map fun setting => (setting, after)
        match more with
        | '=' :: value@(_ :: _) => finish (String.ofList value) rest
        | _ =>
          if f.isSwitch then
            match setFlag setting f "true" with
            | .error e => .error e
            | .ok setting => readShorthands flags setting more rest
          else if !more.isEmpty then finish (String.ofList more) rest
          else
            match rest with
            | v :: after => finish v after
            | [] =>
              .error ("flag needs an argument: " ++ quoteLeadByte c ++ " in -" ++
                String.ofList (c :: more))

/-- Reads the flags of an argument list, keeping the other arguments in order. -/
def readFlags (flags : List Flag) : Nat → Reading → List String → Except String Reading
  | 0, r, rest => .ok { r with args := r.args ++ rest }
  | _, r, [] => .ok r
  | fuel + 1, r, s :: rest =>
    if s.isEmpty || !s.startsWith "-" || s = "-" then readFlags flags fuel { r with args := r.args ++ [s] } rest
    else if s = "--" then .ok { r with args := r.args ++ rest }
    else if s.startsWith "--" then
      let body := s.toList.drop 2
      match body with
      | [] => .error ("bad flag syntax: " ++ s)
      | first :: _ =>
        if first = '-' || first = '=' then .error ("bad flag syntax: " ++ s)
        else
          let (nameChars, value?) := match body.span (· ≠ '=') with
            | (n, []) => (n, none)
            | (n, _ :: v) => (n, some (String.ofList v))
          let name := String.ofList nameChars
          match findFlag flags name with
          | none => .error ("unknown flag: --" ++ name)
          | some f =>
            let given : Option (String × List String) :=
              match value? with
              | some v => some (v, rest)
              | none =>
                if f.isSwitch then some ("true", rest)
                else match rest with
                  | v :: after => some (v, after)
                  | [] => none
            match given with
            | none => .error ("flag needs an argument: " ++ s)
            | some (v, after) =>
              match setFlag r.setting f v with
              | .error e => .error e
              | .ok setting => readFlags flags fuel { r with setting := setting } after
    else
      match readShorthands flags r.setting (s.toList.drop 1) rest with
      | .error e => .error e
      | .ok (setting, after) => readFlags flags fuel { r with setting := setting } after

/-! ## Help -/

/-- The usage of a command: how to call it, its commands and its flags, among them its help
flag when that has been set up, which happens when the command runs. -/
def usageWith (helpShown : Bool) (c : Command) : String :=
  let listedChildren := c.children.filter fun d => d.listed || d.name == "help"
  let sortedChildren := listedChildren.mergeSort fun a b => !decide (b.name < a.name)
  let hasChildren := c.children.any (·.listed)
  let padding := max 11 (c.children.foldl (fun w d => max w d.name.length) 0)
  let useLine := (match c.parent with
    | some p => p.path ++ " " ++ c.useText
    | none => c.useText) ++ (if c.showsFlagsInUse then " [flags]" else "")
  let ownAndHelp := ownFlags c ++ (if helpShown then [helpFlag c] else [])
  "Usage:" ++
  (if c.runnable then "\n  " ++ useLine else "") ++
  (if hasChildren then "\n  " ++ c.path ++ " [command]" else "") ++
  (if hasChildren then
    "\n\nAvailable Commands:" ++ String.join (sortedChildren.map fun d =>
      "\n  " ++ d.name ++ String.ofList (List.replicate (padding - d.name.length) ' ') ++ " " ++ d.short)
   else "") ++
  "\n\nFlags:\n" ++ flagUsages ownAndHelp ++
  (if (inheritedFlags c).isEmpty then "" else "\n\nGlobal Flags:\n" ++ flagUsages (inheritedFlags c)) ++
  (if hasChildren then
    "\n\nUse \"" ++ c.path ++ " [command] --help\" for more information about a command."
   else "") ++ "\n"

/-- The usage of a command that runs. -/
def usageText (c : Command) : String := usageWith true c

/-- The help of a command: its description, then its usage. -/
def helpText (c : Command) : String :=
  let description := if c.long.isEmpty then c.short else c.long
  let trimmed := String.ofList (description.toList.reverse.dropWhile Char.isWhitespace).reverse
  (if trimmed.isEmpty then "" else trimmed ++ "\n\n") ++ usageText c

end DashboardHarness.Cli
