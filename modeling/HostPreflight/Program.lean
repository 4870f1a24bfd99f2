import HostPreflight.CommandLine.Options
import HostPreflight.LibrarySearch
import HostPreflight.Report.Streams

/-!
# The program

What the program does with a command line: a dialogue with the machine that ends
with an exit code and two output texts.  Nothing is written before the outcome is
known.

## Main definitions

* `Outcome` — the exit code and what is written.
* `Settings.ofOptions` — the settings that a command line asks for.
* `program environment arguments` — the whole program.
* `verbosity`, `Event.isLogged` — which events are logged.
-/

namespace HostPreflight

open CommandLine Dialogue Text

/-- The exit code and what is written to the two streams. -/
structure Outcome where
  exitCode : UInt8
  out : List UInt8
  err : List UInt8
  deriving DecidableEq, Repr

namespace Outcome

/-- An outcome with a text on the output stream. -/
def printing (exitCode : UInt8) (text : String) : Outcome := ⟨exitCode, Utf8.encode text.toList, []⟩

/-- An outcome with a text on the error stream. -/
def objecting (exitCode : UInt8) (text : String) : Outcome :=
  ⟨exitCode, [], Utf8.encode text.toList⟩

/-- The outcome of a failure. -/
def ofFailure (failure : Failure) : Outcome :=
  .objecting 1 ("Error: " ++ failure.message ++ "\n")

/-- The outcome of printing a text and then a report. -/
def ofReport (head : String) (report : Report) : Outcome where
  exitCode := report.exitCode
  out := Utf8.encode head.toList ++ report.printed.out.received
  err := report.printed.err.received

end Outcome

/-! ## Settings -/

/-- The settings that a command line asks for.  A root that is a file is refused. -/
def Settings.ofOptions (options : Options) : MachineDialogue (Except Failure Settings) := do
  match options.rteSdk.filter fun root => !root.isEmpty with
  | none => return .ok .default
  | some root =>
    if ← query (Request.isFile root) then
      return .error (.settings ("RTE_SDK is a file, expected a directory: " ++ root))
    else return .ok { Settings.default with rteSdk := some root }

/-! ## Checking -/

/-- Checks the machine and prints the report. -/
def performCheck (options : Options) (settings : Settings) : MachineDialogue Outcome := do
  match options.format with
  | .text =>
    let head ←
      if options.noSummary then pure ""
      else do
        let summary : HostSummary ← query Request.summary
        pure summary.text
    let report ← checkMachine settings
    return .ofReport head report
  | .json =>
    let report ← checkMachine settings
    return .printing report.exitCode (report.jsonText ++ "\n")

/-! ## Libraries -/

/-- Searches the libraries where the options say, else under the installation root. -/
def searchLibraries (options : LibraryOptions) (settings : Settings) :
    MachineDialogue (Except Failure LinkLibraries) :=
  if options.fromPackages then searchPackages
  else
    match options.directory.or settings.libraryDirectory? with
    | some directory => searchDirectory directory
    | none => return .error (.missingVariable rootVariable)

/-- What is printed about libraries. -/
def librariesText (options : LibraryOptions) (libraries : LinkLibraries) : String :=
  if options.directives then libraries.directives else libraries.linkerFlags ++ "\n"

/-- The outcome of a search. -/
def librariesOutcome (options : LibraryOptions) : Except Failure LinkLibraries → Outcome
  | .error failure => .ofFailure failure
  | .ok libraries =>
    if libraries.isEmpty then .objecting 1 "No DPDK libraries found\n"
    else .printing 0 (librariesText options libraries)

/-- Searches the libraries and prints them. -/
def performLibraries (options : LibraryOptions) (settings : Settings) :
    MachineDialogue Outcome := do
  return librariesOutcome options (← searchLibraries options settings)

/-! ## The whole program -/

/-- Carries out what a command line asks for. -/
def perform (options : Options) : MachineDialogue Outcome := do
  match ← Settings.ofOptions options with
  | .error failure => return .ofFailure failure
  | .ok settings =>
    match options.command with
    | some (.libraries libraries) => performLibraries libraries settings
    | _ => performCheck options settings

/-- The name of the program. -/
def programName : String := "dpdk-preflight"

/-- How the program is used. -/
def usage : String :=
  "Usage: " ++ programName ++ " [OPTIONS] [COMMAND]\n"

/-- The outcome of a command line that is not carried out. -/
def refusalOutcome (refusal : Refusal) : Outcome :=
  match refusal with
  | .displayVersion => .printing refusal.exitCode (programName ++ " " ++ version ++ "\n")
  | .displayHelp => .printing refusal.exitCode usage
  | _ => .objecting refusal.exitCode ("error: the command line is not understood\n\n" ++ usage)

/-- The whole program, given what the environment names as installation root. -/
def program (environment : Option String) (arguments : List String) : MachineDialogue Outcome :=
  match Options.parse environment arguments with
  | .error refusal => return refusalOutcome refusal
  | .ok options => perform options

/-! ## The log -/

/-- How many more messages a command line asks for. -/
def verbosity (environment : Option String) (arguments : List String) : UInt8 :=
  match Options.parse environment arguments with
  | .error _ => 0
  | .ok options => options.verbosity

/-- Whether an event is logged: one request for more messages brings the important
events, and two bring all. -/
def Event.isLogged (verbosity : UInt8) (event : Event) : Bool :=
  match event.level with
  | .info => 1 ≤ verbosity
  | .debug => 2 ≤ verbosity

/-- The line of an event in the log. -/
def Event.line (event : Event) : String := event.level.name ++ " " ++ event.text ++ "\n"

end HostPreflight
