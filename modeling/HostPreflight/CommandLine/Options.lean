import HostPreflight.CommandLine.Level
import HostPreflight.Settings

/-!
# Options of the program

The program checks the host, which is also what it does without a command, or
prints what a build needs of the installed libraries.

## Main definitions

* `Options` — what a command line asks for.
* `Options.parse` — reads a command line.
-/

namespace HostPreflight.CommandLine

/-- The forms in which a report is printed. -/
inductive Format where
  | text
  | json
  deriving DecidableEq, Repr

namespace Format

/-- The name of a format. -/
def name : Format → String
  | .text => "text"
  | .json => "json"

/-- The formats by name. -/
def named : List (String × Format) := [.text, .json].map fun format => (format.name, format)

/-- The format of a name. -/
def ofName? (name : String) : Option Format := named.lookup name

end Format

/-- Where library names come from and how they are printed. -/
structure LibraryOptions where
  /-- Whether the package database is asked. -/
  fromPackages : Bool
  /-- The library directory, if it is given. -/
  directory : Option String
  /-- Whether build-script directives are printed. -/
  directives : Bool
  deriving DecidableEq, Repr

/-- What the program can do. -/
inductive Command where
  | check
  | libraries (options : LibraryOptions)
  deriving DecidableEq, Repr

/-- What a command line asks for. -/
structure Options where
  rteSdk : Option String
  format : Format
  noSummary : Bool
  verbosity : UInt8
  command : Option Command
  deriving DecidableEq, Repr

namespace Options

/-! ## The levels -/

/-- A path must not be empty. -/
def isPath (value : String) : Bool := !value.isEmpty

/-- The option that asks for help. -/
def helpRule : OptionRule := ⟨"help", some 'h', .stop .displayHelp⟩

/-- The options of the program itself. -/
def programLevel : Level where
  options := [
    ⟨"rte-sdk", none, .value isPath⟩,
    ⟨"format", none, .value fun name => (Format.ofName? name).isSome⟩,
    ⟨"no-summary", none, .flag⟩,
    ⟨"verbose", some 'v', .count⟩,
    helpRule,
    ⟨"version", some 'V', .stop .displayVersion⟩]
  commands := ["check", "libs", "help"]
  stray := .invalidSubcommand

/-- The options of the check. -/
def checkLevel : Level where
  options := [helpRule]
  commands := []
  stray := .unknownArgument

/-- The options of the library command. -/
def librariesLevel : Level where
  options := [
    ⟨"pkg-config", none, .flag⟩,
    ⟨"lib-dir", none, .value isPath⟩,
    ⟨"cargo", none, .flag⟩,
    helpRule]
  commands := []
  stray := .unknownArgument

/-! ## Commands -/

/-- Reads the options of the check. -/
def parseCheck (arguments : List String) : Except Refusal Command := do
  let _ ← checkLevel.readAll arguments
  return .check

/-- Reads the options of the library command.  The package database and a
directory exclude each other. -/
def parseLibraries (arguments : List String) : Except Refusal Command := do
  let mentions ← librariesLevel.readAll arguments
  if isMentioned mentions "pkg-config" && isMentioned mentions "lib-dir" then
    .error .argumentConflict
  else
    return .libraries {
      fromPackages := isMentioned mentions "pkg-config"
      directory := valueOf? mentions "lib-dir"
      directives := isMentioned mentions "cargo" }

/-- What asking for help about commands ends in. -/
def refuseHelp : List String → Refusal
  | [] => .displayHelp
  | [command] =>
    if programLevel.commands.contains command then .displayHelp else .invalidSubcommand
  | _ => .invalidSubcommand

/-- Reads a command and its arguments. -/
def parseCommand (name : String) (arguments : List String) : Except Refusal Command :=
  if name = "check" then parseCheck arguments
  else if name = "libs" then parseLibraries arguments
  else .error (refuseHelp arguments)

/-! ## Command lines -/

/-- The installation root: the one that is mentioned, else the one that the
environment names.  An empty one is refused. -/
def parseRoot (environment : Option String) (mentions : List Mention) :
    Except Refusal (Option String) :=
  match valueOf? mentions "rte-sdk", environment with
  | some root, _ => .ok (some root)
  | none, none => .ok none
  | none, some root => if isPath root then .ok (some root) else .error .invalidValue

/-- The number of times that more messages were asked for, at most 255. -/
def verbosityOf (mentions : List Mention) : UInt8 :=
  UInt8.ofNat (min (timesMentioned mentions "verbose") 255)

/-- Reads a command line, given what the environment names as installation root. -/
def parse (environment : Option String) (arguments : List String) : Except Refusal Options := do
  let (progress, rest) ← programLevel.read .start arguments
  let command ← match rest with
    | none => pure none
    | some (name, arguments) => some <$> parseCommand name arguments
  let mentions ← progress.settle
  let rteSdk ← parseRoot environment mentions
  return {
    rteSdk
    format := ((valueOf? mentions "format").bind Format.ofName?).getD .text
    noSummary := isMentioned mentions "no-summary"
    verbosity := verbosityOf mentions
    command }

end Options

end HostPreflight.CommandLine
