import HostPreflight.Machine.Shell.Text

/-!
# Commands that the shell has built in

## Main definitions

* `Builtin` — the commands; `Builtin.ofName?` finds one by its name.
* `Builtin.isSpecial` — those after which a mistake ends the script.
* `Builtin.takesAssignments` — those whose arguments can assign variables.
-/

namespace HostPreflight.Machine.Shell

/-- A command that the shell has built in. -/
inductive Builtin where
  /-- Does nothing. -/
  | idle
  /-- Runs the commands in a file. -/
  | source
  | defineAlias
  | background
  | changeDirectory
  /-- Runs a command that is no function. -/
  | command
  | decide
  | echo
  /-- Runs its arguments as a script. -/
  | evaluate
  /-- Turns the process into another program. -/
  | exec
  | exit
  /-- Gives variables to other programs. -/
  | publish
  | fail
  | foreground
  | getOptions
  | hash
  | jobs
  | kill
  | leaveLoop
  | limit
  /-- Makes variables local to a function. -/
  | localize
  | mask
  | nextRound
  /-- Keeps variables from being changed. -/
  | preserve
  | printDirectory
  | printFormatted
  | read
  /-- Leaves a function, or the script. -/
  | leaveFunction
  | set
  | shift
  | succeed
  | times
  | trap
  /-- Says what names stand for. -/
  | type
  | dropAlias
  | unset
  | wait
  deriving DecidableEq, Repr

namespace Builtin

/-- The commands by their names. -/
def named : List (String × Builtin) :=
  [(":", idle), (".", source), ("[", decide), ("alias", defineAlias), ("bg", background),
    ("break", leaveLoop), ("cd", changeDirectory), ("chdir", changeDirectory), ("command", command),
    ("continue", nextRound), ("echo", echo), ("eval", evaluate), ("exec", exec), ("exit", exit),
    ("export", publish), ("false", fail), ("fg", foreground), ("getopts", getOptions),
    ("hash", hash), ("jobs", jobs), ("kill", kill), ("local", localize), ("printf", printFormatted),
    ("pwd", printDirectory), ("read", read), ("readonly", preserve), ("return", leaveFunction),
    ("set", set), ("shift", shift), ("test", decide), ("times", times), ("trap", trap),
    ("true", succeed), ("type", type), ("ulimit", limit), ("umask", mask), ("unalias", dropAlias),
    ("unset", unset), ("wait", wait)]

/-- The command of a name. -/
def ofName? (name : List Char) : Option Builtin := named.lookup (String.ofList name)

/-- Whether a mistake in the command ends the script, and variables assigned in front
of it keep their values. -/
def isSpecial : Builtin → Bool
  | idle | source | leaveLoop | nextRound | evaluate | exec | exit | publish | localize | preserve
  | leaveFunction | set | shift | times | trap | unset => true
  | _ => false

/-- Whether arguments of the command that assign variables are not split into fields. -/
def takesAssignments : Builtin → Bool
  | defineAlias | publish | localize | preserve => true
  | _ => false

end Builtin

end HostPreflight.Machine.Shell
