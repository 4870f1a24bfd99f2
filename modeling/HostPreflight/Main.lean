import HostPreflight.Program

/-!
# The executable

Carries out the dialogue of the program on the live machine.  All that is decided
here is how a request is put to the operating system.  Other programs are not
started: such a request is answered as one that the machine does not offer.
-/

namespace HostPreflight.Main

open Failure (Cause)

/-- The cause that an error of the operating system has. -/
def causeOf : IO.Error → Cause
  | .noFileOrDirectory _ number _ => .system number.toNat
  | .permissionDenied _ number _ => .system number.toNat
  | .inappropriateType _ number _ => .system number.toNat
  | .invalidArgument _ number _ => .system number.toNat
  | .resourceExhausted _ number _ => .system number.toNat
  | error => .described .other (toString error)

/-- An action that may fail with a cause. -/
def attempt {α : Type} (action : IO α) : IO (Except Cause α) := do
  try return .ok (← action)
  catch error => return .error (causeOf error)

/-- The text of one of the kernel's tables, if it can be read. -/
def table? (path : String) : IO (Option String) := do
  try return some (← IO.FS.readFile path)
  catch _ => return none

/-- Where the kernel lists the processors. -/
def processorTable : IO String := return (← table? "/proc/cpuinfo").getD ""

/-- The names of the entries of a directory. -/
def names (entries : Array IO.FS.DirEntry) : List (List UInt8) :=
  entries.toList.map fun entry => Text.Utf8.encode entry.fileName.toList

/-- Puts a request to the operating system. -/
def respond : (request : Request) → IO request.Answer
  | .isFile path => do
    try return (← ((← IO.currentDir) / path).metadata).type == .file
    catch _ => return false
  | .isDirectory path => do
    try return (← ((← IO.currentDir) / path).metadata).type == .dir
    catch _ => return false
  | .read path => attempt do return (← IO.FS.readBinFile path).toList
  | .list path => do
    let entries ← attempt ((← IO.currentDir) / path).readDir
    return (entries.map names).mapError (BrokenListing.mk [])
  | .execute _ _ => return .error .notImplemented
  | .logicalCores => return HostSummary.processors (← processorTable)
  | .summary => do
    let hostname ← table? "/proc/sys/kernel/hostname"
    let release ← table? "/proc/sys/kernel/osrelease"
    return HostSummary.ofTables hostname release (← processorTable)

/-- Carries out a dialogue. -/
def converse (verbosity : UInt8) : MachineDialogue Outcome → IO Outcome
  | .done outcome => return outcome
  | .note event rest => do
    if event.isLogged verbosity then IO.eprint event.line
    converse verbosity rest
  | .ask request next => do
    converse verbosity (next (← respond request))

/-- Writes octets to a stream. -/
def send (stream : IO.FS.Stream) (octets : List UInt8) : IO Unit := do
  stream.write (ByteArray.mk octets.toArray)
  stream.flush

end HostPreflight.Main

/-- Carries out the program and exits with its exit code. -/
def main (arguments : List String) : IO UInt32 := do
  let environment ← IO.getEnv HostPreflight.rootVariable
  let verbosity := HostPreflight.verbosity environment arguments
  let outcome ← HostPreflight.Main.converse verbosity
    (HostPreflight.program environment arguments)
  HostPreflight.Main.send (← IO.getStdout) outcome.out
  HostPreflight.Main.send (← IO.getStderr) outcome.err
  return outcome.exitCode.toUInt32
