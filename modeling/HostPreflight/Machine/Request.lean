import HostPreflight.Completion
import HostPreflight.Dialogue
import HostPreflight.HostSummary

/-!
# Requests to the machine

What the program needs of the machine that it runs on: a few facts about files,
the output of other programs, and facts about the hardware.  A dialogue over
these requests says all that the program does, and an answer to each of them is
all that it can see.

## Main definitions

* `Request` — the requests; `Request.Answer` — the types of their answers.
* `BrokenListing` — what is left of the listing of a directory that breaks off.
* `MachineDialogue` — dialogues over the requests.
-/

namespace HostPreflight

/-- A directory that cannot be listed to its end. -/
structure BrokenListing where
  /-- The names before the error. -/
  seen : List (List UInt8)
  cause : Failure.Cause

/-- A request to the machine. -/
inductive Request where
  /-- Whether there is a regular file at a path. -/
  | isFile (path : String)
  /-- Whether there is a directory at a path. -/
  | isDirectory (path : String)
  /-- The content of a file. -/
  | read (path : String)
  /-- The names in a directory, in no particular order. -/
  | list (path : String)
  /-- Runs a program without input. -/
  | execute (program : String) (arguments : List String)
  /-- The number of logical processors. -/
  | logicalCores
  /-- The facts that identify the host. -/
  | summary
  deriving DecidableEq, Repr

/-- The answers to a request. -/
@[reducible] def Request.Answer : Request → Type
  | .isFile _ => Bool
  | .isDirectory _ => Bool
  | .read _ => Except Failure.Cause (List UInt8)
  | .list _ => Except BrokenListing (List (List UInt8))
  | .execute _ _ => Except Failure.Cause Completion
  | .logicalCores => UInt64
  | .summary => HostSummary

/-- Dialogues over the requests to the machine. -/
abbrev MachineDialogue := Dialogue Request.Answer

end HostPreflight
