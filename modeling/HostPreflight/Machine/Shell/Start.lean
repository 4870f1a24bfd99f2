import HostPreflight.Machine.Shell.Run

/-!
# Starting a shell

Runs a shell that another program has started: it has nothing to read, and what it
writes is kept.

## Main definitions

* `Ended` — how a shell has ended.
* `start` — runs a shell from its arguments.
-/

namespace HostPreflight.Machine.Shell

/-- How a shell has ended. -/
structure Ended where
  ending : JobEnd
  out : List Char
  err : List Char
  /-- The files as the script has left them. -/
  tree : FileTree

/-- The fuel of a script. -/
def scriptFuel : Nat := 10000000

/-- The number of the first process. -/
def firstNumber : Nat := 1000

/-- The mask of permissions of the first process. -/
def firstMask : Nat := 18

/-- Runs a shell with its own name and arguments from a directory. -/
def start (tree : FileTree) (here : Location) (environment : List (List Char × List Char))
    (name : List Char) (arguments : List (List Char)) : Ended :=
  let world : World :=
    { tree, streams := #[.null, .sink [], .sink []], processes := firstNumber }
  let process := newProcess firstNumber name here environment [(0, 0), (1, 1), (2, 2)] firstMask
  let (abort, state) := (runShell scriptFuel arguments).run.run { process, world } |>.run
  { ending :=
      match abort with
      | .ok (some (.killed signal)) => .killed signal
      | _ => .exited (visibleStatus state.process.status)
    out := state.world.received 1
    err := state.world.received 2
    tree := state.world.tree }

end HostPreflight.Machine.Shell
