import DashboardHarness.Cli.Commands
import DashboardHarness.Text.Blank

/-!
# Completion requests

A shell asks for the completions of a command line by running the program with the request
command, `__complete` or `__completeNoDesc`, and the words typed so far; the last word is the
one being completed, and may be empty. The answer is one line a choice, the word offered and,
unless descriptions are left out, a tab and its description; then a colon and the directive, a
number whose bits tell the shell to add no space after the word (2) or to offer no file names
(4). The error output names the parts of the directive, after a debugging line when the request
could not be answered in full.

The words before the last one are matched to a command as a run matches them, with the request
command among those under the root. Then:

- a help flag among the words ends the request with nothing offered and no file names;
- a word that is the value of a flag taking one, either after the flag or after `=` in the same
  word, is offered nothing;
- a word that starts with `-` and holds no `=` is offered the flags of the command not given
  yet, inherited ones first, each part sorted by name, a long name before its shorthand;
- any other word, when the command has no arguments yet, is offered the commands under it
  whose name starts with it, the help command included and hidden ones left out, in order of
  name; `help` offers the commands under the command its arguments name, and `completion` and
  its shells offer no file names.

A flag named before the word that the command lacks, or flags that do not read, end the request
with nothing offered and the reason on the debugging line. Flags after `--` are no flags, and
then a word is never taken for one.

Main definitions:

- `answerRequest`: the answer to a completion request, the choices offered for the word being
  completed and the directive for the shell.
- `flagContext`: the flag whose value the word being completed is, if any.
-/

namespace DashboardHarness.Cli

/-- How a shell is to use the choices of an answer. -/
structure Directive where
  /-- No space goes after the chosen word. -/
  noSpace : Bool := false
  /-- No file names are offered. -/
  noFiles : Bool := false
  deriving DecidableEq, Repr

/-- The number a directive is written as, a bit for each of its parts. -/
def Directive.code (d : Directive) : Nat :=
  (if d.noSpace then 2 else 0) + (if d.noFiles then 4 else 0)

/-- The names of the parts of a directive, for the error output; one that asks for nothing is
the default one. -/
def Directive.names (d : Directive) : String :=
  let parts := (if d.noSpace then ["ShellCompDirectiveNoSpace"] else []) ++
    (if d.noFiles then ["ShellCompDirectiveNoFileComp"] else [])
  if parts.isEmpty then "ShellCompDirectiveDefault" else ", ".intercalate parts

/-- A word offered to the shell, with its description. -/
structure Choice where
  word : String
  description : String

/-- The line of a choice: the word and, when descriptions are shown, a tab and the description,
cut at the first line break, without the blanks at either end. -/
def Choice.line (c : Choice) (descriptions : Bool) : String :=
  let text := if descriptions then c.word ++ "\t" ++ c.description
    else String.ofList (c.word.toList.takeWhile (· ≠ '\t'))
  Text.trimBlank (String.ofList (text.toList.takeWhile (· ≠ '\n')))

/-- The answer to a completion request. -/
structure Answer where
  choices : List Choice := []
  directive : Directive := {}
  /-- Why the request could not be answered in full. -/
  problem : Option String := none

/-- What an answer writes to the output: a line a choice, then the directive. -/
def Answer.output (a : Answer) (descriptions : Bool) : String :=
  String.join (a.choices.map fun c => c.line descriptions ++ "\n") ++
    ":" ++ toString a.directive.code ++ "\n"

/-- What an answer writes to the error output: the debugging line of its problem, then the names
of its directive. -/
def Answer.errors (a : Answer) : String :=
  (match a.problem with
   | some p => "[Debug] [Error] " ++ p ++ "\n"
   | none => "") ++
  "Completion ended with directive: " ++ a.directive.names ++ "\n"

/-- A list of words as debugging lines show it: in brackets, separated by spaces. -/
def wordList (words : List String) : String :=
  "[" ++ " ".intercalate words ++ "]"

/-! ## Flags around the word being completed -/

/-- The one-byte name a shorthand is looked up by, taken from a character of an argument; a
character of several bytes gives a byte that names no flag, shown as the replacement
character. -/
def shorthandName (c : Char) : String :=
  if c.toNat < 128 then String.singleton c else "\uFFFD"

/-- The flag of a command that a name found while completing stands for; a name of one byte is
a shorthand. -/
def completionFlag (c : Command) (name : String) : Option Flag :=
  match name.toList with
  | [ch] => if ch.toNat < 128 then findShorthand (flagsOf c) ch else findFlag (flagsOf c) name
  | _ => findFlag (flagsOf c) name

/-- Whether an argument looks like a flag: two dashes and a name, or a dash and anything but a
second dash. -/
def looksLikeFlag (s : String) : Bool :=
  (s.startsWith "--" && s.utf8ByteSize ≥ 3) ||
    (match s.toList with
     | '-' :: c :: _ => c ≠ '-'
     | _ => false)

/-- Where the word being completed stands with respect to the flags. -/
structure FlagContext where
  /-- The flag the word is a value of. -/
  flag : Option Flag
  /-- The arguments before the word, without the flag whose value the word is. -/
  args : List String
  /-- The word, without a flag and `=` before its value. -/
  word : String
  /-- A flag named before the word that the command lacks. -/
  unknown : Option String := none

/-- The name of the flag in a word being completed that starts with a dash and holds `=`: the
long name after two dashes, else the shorthand before the `=`. -/
def nameBeforeEqual (before : List Char) : String :=
  if before.take 2 = ['-', '-'] then String.ofList (before.drop 2)
  else match before.getLast? with
    | some ch => shorthandName ch
    | none => ""

/-- The name of the flag an argument without `=` names: the long name after two dashes, else the
last shorthand of a group. -/
def flagNameOf (arg : String) : String :=
  if arg.startsWith "--" then String.ofList (arg.toList.drop 2)
  else match arg.toList.getLast? with
    | some ch => shorthandName ch
    | none => ""

/-- Finds the flag, if any, whose value a word is: the flag written in the word before `=`, or
else the flag that ends the arguments before it, unless that flag is a switch, which takes no
value after it. -/
def flagContext (c : Command) (args : List String) (word : String) : FlagContext :=
  let cs := word.toList
  if cs.head? = some '-' && !cs.contains '=' then ⟨none, args, word, none⟩
  else
    let (inWord, withEqual, value) : String × Bool × String :=
      if cs.head? = some '-' then
        let (before, after) := cs.span (· ≠ '=')
        (nameBeforeEqual before, true, String.ofList (after.drop 1))
      else ("", false, word)
    let (name, rest) : String × List String :=
      if !inWord.isEmpty then (inWord, args)
      else match args.getLast? with
        | some prev =>
          if looksLikeFlag prev && !prev.toList.contains '=' then (flagNameOf prev, args.dropLast)
          else ("", args)
        | none => ("", args)
    if name.isEmpty then ⟨none, rest, value, none⟩
    else
      match completionFlag c name with
      | none =>
        ⟨none, args, word,
          some ("Subcommand \x27" ++ c.name ++ "\x27 does not support flag \x27" ++ name ++ "\x27")⟩
      | some f =>
        if !withEqual && f.isSwitch then ⟨none, args, value, none⟩
        else ⟨some f, rest, value, none⟩

/-! ## Choices -/

/-- Whether a flag was given, on the command line or by the environment. -/
def given (set : Setting) (f : Flag) : Bool :=
  (Keyed.get? f.name set).isSome

/-- The flags of a command offered for a word that starts a flag: those not given, inherited
ones first, each part sorted by name, a long name before its shorthand. -/
def flagChoices (c : Command) (set : Setting) (word : String) : List Choice :=
  let order := sortedFlags (inheritedFlags c) ++ sortedFlags (ownFlags c ++ [helpFlag c])
  (order.filter fun f => !given set f).flatMap fun f =>
    let long := "--" ++ f.name
    (if long.startsWith word then [⟨long, f.usage⟩] else []) ++
    match f.shorthand with
    | some s =>
      let short := "-" ++ String.singleton s
      if short.startsWith word then [⟨short, f.usage⟩] else []
    | none => []

/-- The answer offering flags: no file names, and no space after a single choice that ends in
`=`. -/
def flagAnswer (c : Command) (set : Setting) (word : String) : Answer :=
  let choices := flagChoices c set word
  let single := match choices with
    | [one] => (one.word ++ "\t" ++ one.description).endsWith "="
    | _ => false
  { choices := choices,
    directive := if single then { noSpace := true } else { noFiles := true } }

/-- The commands under a command that completion offers: the help command and those not hidden,
in order of name. -/
def offeredCommands (c : Command) : List Command :=
  ((c.reachable true).filter fun d => d.listed || d == .help).mergeSort
    fun a b => !decide (b.name < a.name)

/-- The commands under a command offered for a word: those whose name starts with it. -/
def commandChoices (c : Command) (word : String) : List Choice :=
  ((offeredCommands c).filter (·.name.startsWith word)).map fun d => ⟨d.name, d.short⟩

/-- The flags a command has for itself alone, not passed down: its help flag and, below the
root, its own flags. -/
def localFlags (c : Command) : List Flag :=
  (if c == .root then [] else ownFlags c) ++ [helpFlag c]

/-- What the command itself offers for its arguments, after what was found so far. -/
def argumentAnswer (c : Command) (args : List String) (word : String) (found : Answer) : Answer :=
  match c with
  | .completion | .shell _ => { found with directive := { noFiles := true } }
  | .help =>
    let more := match findCommand true args with
      | .ok (d, _) => commandChoices d word
      | .error _ => []
    { found with choices := found.choices ++ more, directive := { noFiles := true } }
  | _ => found

/-- Answers for a command whose flags are read, given its arguments before the word. -/
def commandAnswer (set : Setting) (c : Command) (args : List String) (word : String) : Answer :=
  let context := flagContext c args word
  let flags := flagsOf c
  match readFlags flags (context.args.length + 1) ⟨set, []⟩ context.args with
  | .error e =>
    { problem := some ("Error while parsing flags from args " ++ wordList context.args ++ ": " ++ e) }
  | .ok r =>
    -- a closing `--` counts as an argument only when the flags were closed already
    let closed := match readFlags flags (context.args.length + 2) ⟨set, []⟩ (context.args ++ ["--"]) with
      | .ok ended => ended.args.length > r.args.length
      | .error _ => false
    match context.unknown with
    | some p =>
      if !closed then { problem := some p }
      else commandAnswerAfterFlags c r context.flag context.word closed
    | none => commandAnswerAfterFlags c r context.flag context.word closed
where
  /-- The rest of the answer once the flags have been read. -/
  commandAnswerAfterFlags (c : Command) (r : Reading) (flag : Option Flag) (word : String)
      (closed : Bool) : Answer :=
    if given r.setting (helpFlag c) then { directive := { noFiles := true } }
    else if flag.isNone && !closed && word.startsWith "-" && !word.toList.contains '=' then
      flagAnswer c r.setting word
    else
      let listing : Answer :=
        if flag.isNone && r.args.isEmpty && !(localFlags c).any (given r.setting) then
          { choices := commandChoices c word,
            directive := { noFiles := !(offeredCommands c).isEmpty } }
        else {}
      if flag.isSome && !closed then listing else argumentAnswer c r.args word listing

/-- Answers a completion request for the words typed so far, the last one being completed, given
the flags the environment has set. -/
def answerRequest (set : Setting) (words : List String) : Answer :=
  let word := words.getLastD ""
  let before := words.dropLast
  match findCommand true before with
  | .error _ => { problem := some ("unable to find a command for arguments: " ++ wordList before) }
  | .ok (.request, _) =>
    -- the request command reads no flags: only flag names are offered
    if word.startsWith "-" && !word.toList.contains '=' then flagAnswer .request set word else {}
  | .ok (c, args) => commandAnswer set c args word

/-- The word the request command was last named by: the one that asked, unless the words before
the one being completed name it again. -/
def requestWord (asked : String) (words : List String) : String :=
  match commandWords (findingFlags .root) words.dropLast with
  | w :: _ => if Command.request.answersTo w then w else asked
  | [] => asked

/-- Whether an answer shows descriptions: not when asked by `__completeNoDesc`, and otherwise as
the setting of the environment says when it is a truth value, the program's own before the
general one. -/
def showsDescriptions (env : String → Option String) (asked : String) : Bool :=
  if asked = "__completeNoDesc" then false
  else
    let own := (env "DASHPROBE_COMPLETION_DESCRIPTIONS").getD ""
    let setting := if own.isEmpty then (env "COBRA_COMPLETION_DESCRIPTIONS").getD "" else own
    match Text.readBool setting with
    | .ok b => b
    | .error _ => true

end DashboardHarness.Cli
