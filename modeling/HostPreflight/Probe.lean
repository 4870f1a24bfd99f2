import HostPreflight.Checks
import HostPreflight.Machine.Request

/-!
# Probing the live machine

How the questions to a host are answered on the live machine: by a program that
lists the processors, by the kernel's memory table, and by the binding utility of
the installed dataplane.

## Main definitions

* `captureOutput` — the output of a program that succeeds.
* `probe settings` — a dialogue with the machine for each question.
* `checkMachine settings` — the checks on the live machine.
-/

namespace HostPreflight

open Dialogue Text

/-- A program and its arguments as one line. -/
def commandLine (program : String) (arguments : List String) : String :=
  String.ofList ([' '].intercalate ((program :: arguments).map String.toList))

/-- Runs a program and takes its output. -/
def captureOutput (program : String) (arguments : List String) :
    MachineDialogue (Except Failure String) := do
  let line := commandLine program arguments
  log (.running line)
  match ← query (Request.execute program arguments) with
  | .error cause => return .error (.commandFailed line cause.message)
  | .ok completion => return completion.output line

/-- The text of a file, which must be well formed. -/
def readText (path : String) : MachineDialogue (Except Failure String) := do
  match ← query (Request.read path) with
  | .error cause => return .error (.io path cause)
  | .ok octets =>
    match Utf8.decode? octets with
    | some text => return .ok (String.ofList text)
    | none => return .error (.io path .notText)

/-- Where the binding utility is, or why that is not known. -/
def Settings.locateStatusScript (settings : Settings) : Except Failure String :=
  match settings.statusScript? with
  | some path => .ok path
  | none => .error (.missingVariable rootVariable)

/-- Asks the machine a question. -/
def probe (settings : Settings) : (question : Query) → MachineDialogue question.Answer
  | .cpuTopology =>
    match settings.topologyCommand with
    | [] => return .error (.settings "empty topology command")
    | program :: arguments => captureOutput program arguments
  | .logicalCores => query Request.logicalCores
  | .meminfo => readText settings.meminfoPath
  | .devbindStatus => do
    match settings.locateStatusScript with
    | .error failure => return .error failure
    | .ok script =>
      if ← query (Request.isFile script) then captureOutput script ["--status"]
      else return .error (.notFound script)

/-- The checks on the live machine. -/
def checkMachine (settings : Settings) : MachineDialogue Report :=
  (runChecks settings).route (probe settings)

end HostPreflight
