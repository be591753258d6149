import DashboardHarness.Text.Numeral
import DashboardHarness.Text.Duration
import DashboardHarness.Keyed

/-!
# Command-line flags

A flag has a long name, perhaps a one-letter shorthand, a type, the text of its default and a
line of usage. A value given for a flag is read by its type: any text, a truth value, a duration,
a 64-bit integer with an optional base prefix, or a double. A value that does not read fails
with `invalid argument "<value>" for "<flag>" flag: <reason>`, where the flag is written
`--name`, or `-s, --name` when it has a shorthand.

The usage of a set of flags lists them sorted by name, one a line: the flag, the name of its
value type (none for truth values), padding that aligns all usages, the usage, and the default
when it is not the zero of the type.

Main definitions:

- `Flag.read`, `setFlag`: a value given for a flag, read by the strict reader of its type and set.
- `flagUsages`: the usage lines of a set of flags.
-/

namespace DashboardHarness.Cli

/-- The types of flag values. -/
inductive FlagType where
  | text
  | switch
  | duration
  | integer
  | decimal
  deriving DecidableEq, Repr

/-- A value of a flag. -/
inductive FlagValue where
  | text (s : String)
  | switch (b : Bool)
  | duration (nanos : Int)
  | integer (n : Int)
  | decimal (x : Float)

/-- A flag. -/
structure Flag where
  name : String
  shorthand : Option Char := none
  type : FlagType
  defaultText : String
  usage : String

/-- The name of a value type as the usage shows it; truth values show none. -/
def FlagType.shownName : FlagType → String
  | .text => "string"
  | .switch => ""
  | .duration => "duration"
  | .integer => "int"
  | .decimal => "float"

/-- Reads a value of a type, or the reason it does not read. -/
def FlagType.read (t : FlagType) (s : String) : Except String FlagValue :=
  match t with
  | .text => .ok (.text s)
  | .switch => match Text.readBool s with
    | .ok b => .ok (.switch b)
    | .error e => .error e.message
  | .duration => match Text.readDuration s with
    | .ok n => .ok (.duration n)
    | .error e => .error e
  | .integer => match Text.readInt s with
    | .ok n => .ok (.integer n)
    | .error e => .error e.message
  | .decimal => match Text.readFloat s with
    | .ok x => .ok (.decimal x)
    | .error e => .error e.message

/-- The text of a value as the flag itself writes it. -/
def FlagValue.shown : FlagValue → String
  | .text s => s
  | .switch b => if b then "true" else "false"
  | .duration n => Text.writeDuration n
  | .integer n => toString n
  | .decimal x => toString x

/-- How a flag is named in messages: `--name`, or `-s, --name` with a shorthand. -/
def Flag.display (f : Flag) : String :=
  match f.shorthand with
  | some c => "-" ++ String.singleton c ++ ", --" ++ f.name
  | none => "--" ++ f.name

/-- Reads a value given for a flag. -/
def Flag.read (f : Flag) (s : String) : Except String FlagValue :=
  match f.type.read s with
  | .ok v => .ok v
  | .error reason =>
    .error ("invalid argument " ++ Text.quote s ++ " for " ++ Text.quote f.display ++ " flag: " ++ reason)

/-- The value of a flag before anything sets it. -/
def Flag.initial (f : Flag) : FlagValue :=
  match f.type.read f.defaultText with
  | .ok v => v
  | .error _ => .text f.defaultText

/-- Whether a flag is a truth value, which needs no value after it. -/
def Flag.isSwitch (f : Flag) : Bool := f.type == .switch

/-- Whether the default of a flag is the zero of its type, which the usage leaves out. -/
def Flag.defaultIsZero (f : Flag) : Bool :=
  match f.type with
  | .switch => f.defaultText == "false"
  | .duration => f.defaultText == "0" || f.defaultText == "0s"
  | .integer | .decimal => f.defaultText == "0"
  | .text => f.defaultText.isEmpty

/-- The part of a usage line before the padding. -/
def Flag.usageHead (f : Flag) : String :=
  let named := match f.shorthand with
    | some c => "  -" ++ String.singleton c ++ ", --" ++ f.name
    | none => "      --" ++ f.name
  if f.type.shownName.isEmpty then named else named ++ " " ++ f.type.shownName

/-- The part of a usage line after the padding. -/
def Flag.usageTail (f : Flag) : String :=
  if f.defaultIsZero then f.usage
  else if f.type == .text then f.usage ++ " (default " ++ Text.quote f.defaultText ++ ")"
  else f.usage ++ " (default " ++ f.defaultText ++ ")"

/-- Flags sorted by name. -/
def sortedFlags (flags : List Flag) : List Flag :=
  flags.mergeSort fun a b => !decide (b.name < a.name)

/-- The usage lines of a set of flags, without the final line break. -/
def flagUsages (flags : List Flag) : String :=
  let sorted := sortedFlags flags
  let width := sorted.foldl (fun w f => max w (f.usageHead.length + 1)) 0
  "\n".intercalate (sorted.map fun f =>
    f.usageHead ++ " " ++ String.ofList (List.replicate (width - f.usageHead.length) ' ') ++ " " ++
      f.usageTail)

/-- The flag of a long name. -/
def findFlag (flags : List Flag) (name : String) : Option Flag :=
  flags.find? (·.name == name)

/-- The flag of a shorthand. -/
def findShorthand (flags : List Flag) (c : Char) : Option Flag :=
  flags.find? (·.shorthand == some c)

/-- Flags with the values set so far, by name. -/
abbrev Setting := List (String × FlagValue)

/-- Sets a flag from a text. -/
def setFlag (set : Setting) (f : Flag) (s : String) : Except String Setting :=
  match f.read s with
  | .ok v => .ok (Keyed.set f.name v set)
  | .error e => .error e

/-- The value of a flag: the one set, else its default. -/
def valueOf (set : Setting) (f : Flag) : FlagValue :=
  (Keyed.get? f.name set).getD f.initial

end DashboardHarness.Cli
