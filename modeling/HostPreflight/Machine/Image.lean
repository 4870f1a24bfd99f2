import HostPreflight.Machine.Request
import HostPreflight.Machine.Shell.Start
import HostPreflight.Text.Utf8

/-!
# Machine images

A machine that is described completely: a file tree, the directory in which the
program runs, the environment that it passes on, where programs are looked for, and
the facts about the hardware.  It answers every request, and programs that it runs
may change its files.  It is one machine among others: what is proved about the program
is proved for every machine, and does not rest on this one.

## Main definitions

* `Image` — the description.
* `Image.locateProgram` — finds a program by its name.
* `Image.execute` — runs a program.
* `Image.answer` — answers a request.
-/

namespace HostPreflight.Machine

open Failure (Cause)

/-- A machine that is described completely. -/
structure Image where
  tree : FileTree
  /-- The directory in which the program runs. -/
  here : Location
  /-- The path of the directory in which programs are looked for. -/
  programs : List UInt8
  /-- The variables that programs are given beside that path. -/
  settings : List (String × String) := []
  cores : UInt64
  summary : HostSummary

namespace Image

/-- The octets of a path. -/
def pathOctets (path : String) : List UInt8 := Text.Utf8.encode path.toList

/-- Whether a text holds a zero octet. -/
def holdsZero (text : String) : Bool := text.toList.contains '\x00'

/-- The location and the node that a path leads to. -/
def resolve (image : Image) (path : List UInt8) : Except Cause (Location × Node) :=
  image.tree.resolve image.here path

/-- The location and the node that the path of a file request leads to. -/
def resolveText (image : Image) (path : String) : Except Cause (Location × Node) :=
  if holdsZero path then .error .zeroInPath else image.resolve (pathOctets path)

/-- The content of a file. -/
def read (image : Image) (path : String) : Except Cause (List UInt8) := do
  match ← image.resolveText path with
  | (_, .directory) => .error .isDirectory
  | (_, .file content _) => .ok content
  | _ => .ok []

/-- The names in a directory. -/
def list (image : Image) (path : String) : Except Cause (List Name) := do
  match ← image.resolveText path with
  | (location, .directory) => .ok (image.tree.children location)
  | _ => .error .notDirectory

/-! ## Programs -/

/-- The path of a program, if there is one there. -/
def programAt (image : Image) (path : List UInt8) : Except Cause (List UInt8) := do
  let (_, node) ← image.resolve path
  if Shell.isProgram node then .ok path else .error .accessDenied

/-- Finds a program: a name with a slash is a path, any other name is looked for
among the programs. -/
def locateProgram (image : Image) (name : List UInt8) : Except Cause (List UInt8) :=
  if name.isEmpty then .error .noEntry
  else if name.contains slash then image.programAt name
  else
    match image.programAt (image.programs ++ slash :: name) with
    | .error .notDirectory => .error .noEntry
    | result => result

/-- The variables that a program is given. -/
def environment (image : Image) : List (List Char × List Char) :=
  ("PATH".toList, Shell.ofOctets image.programs) :: image.settings.map fun (name, value) =>
    (name.toList, Shell.ofOctets (pathOctets value))

/-- How a program has ended whose shell has ended. -/
def programEnd : Shell.JobEnd → ProgramEnd
  | .exited status => .exited (UInt8.ofNat status)
  | .killed signal => .signalled (UInt8.ofNat signal) false

/-- How a program ends that is run with some arguments, and the files that it leaves. -/
def run (image : Image) (program : String) (arguments : List String) :
    Except Cause (Completion × FileTree) := do
  if holdsZero program || arguments.any holdsZero then .error .zeroInCommand
  else
    let name := pathOctets program
    let path ← image.locateProgram name
    let (name, arguments) ← image.tree.load image.here path name (arguments.map pathOctets)
    let ended := Shell.start image.tree image.here image.environment (Shell.ofOctets name)
      (arguments.map Shell.ofOctets)
    let completion : Completion := {
      ending := programEnd ended.ending
      out := Shell.toOctets ended.out
      err := Shell.toOctets ended.err }
    return (completion, ended.tree)

/-- Runs a program. -/
def execute (program : String) (arguments : List String) :
    StateM Image (Except Cause Completion) := do
  match (← get).run program arguments with
  | .error cause => return .error cause
  | .ok (completion, tree) =>
    modify fun image => { image with tree }
    return .ok completion

/-! ## Answers -/

/-- Whether a file stands at a path. -/
def isFile (image : Image) (path : String) : Bool :=
  match image.resolveText path with
  | .ok (_, node) => Shell.Condition.isRegular node
  | .error _ => false

/-- Whether a directory stands at a path. -/
def isDirectory (image : Image) (path : String) : Bool :=
  match image.resolveText path with
  | .ok (_, node) => node == .directory
  | .error _ => false

/-- Answers a request.  Only programs that are run change the machine. -/
def answer : (request : Request) → StateM Image request.Answer
  | .isFile path => return (← get).isFile path
  | .isDirectory path => return (← get).isDirectory path
  | .read path => return (← get).read path
  | .list path => return ((← get).list path).mapError (BrokenListing.mk [])
  | .execute program arguments => execute program arguments
  | .logicalCores => return (← get).cores
  | .summary => return (← get).summary

end Image

end HostPreflight.Machine
