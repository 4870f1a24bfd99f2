import HostPreflight.Machine.Shell.Binding
import HostPreflight.Machine.Shell.Condition
import HostPreflight.Machine.Shell.Directory
import HostPreflight.Machine.Shell.Mask
import HostPreflight.Machine.Shell.Printf
import HostPreflight.Machine.Shell.Trap

/-!
# Carrying out built-in commands

The built-in commands that run no other commands.

## Main definitions

* `perform` — carries out a built-in command.
-/

namespace HostPreflight.Machine.Shell

/-! ## Writing -/

/-- Writes formatted text. -/
def performPrintf (arguments : List (List Char)) : Eval Ending := do
  let (_, arguments) ← readSwitches "" arguments
  match arguments with
  | [] => fail "usage: printf format [arg ...]".toList
  | format :: arguments =>
    let (result, progress) := printf format arguments
    for warning in progress.warnings.reverse do
      warn warning
    let output := progress.written.reverse.flatten
    match result with
    | .wrong text =>
      warn text
      return (output, 2)
    | _ => return (output, if progress.warnings.isEmpty then 0 else 1)

/-- Decides a condition, which a bracket closes if one has opened it. -/
def performTest (name : List Char) (arguments : List (List Char)) : Eval Ending := do
  let isBracketed := name.head? = some '['
  if isBracketed && arguments.getLast?.bind List.head? ≠ some ']' then fail "missing ]".toList
  else
    let condition := if isBracketed then arguments.dropLast else arguments
    return ([], if ← judge condition then 0 else 1)

/-! ## Leaving -/

/-- Ends the process. -/
def performExit (arguments : List (List Char)) : Eval Ending := do
  match arguments with
  | [] => throw .exit
  | code :: _ =>
    let code ← needCount code
    modifyProcess fun p => { p with saved := some code }
    throw .exit

/-- Leaves a function, or the script. -/
def performReturn (arguments : List (List Char)) : Eval Ending := do
  let code ← match arguments with
    | [] => status
    | code :: _ => needCount code
  modifyProcess fun p => { p with skip := some (.return (!arguments.isEmpty)) }
  return ([], code)

/-- Leaves some loops, or goes on with their next round. -/
def performBreak (skip : Nat → Skip) (arguments : List (List Char)) : Eval Ending := do
  let count ← match arguments with
    | [] => pure 1
    | count :: _ =>
      let n ← needCount count
      if n = 0 then illegalNumber count else pure n
  modifyProcess fun p =>
    if p.loops = 0 then p else { p with skip := some (skip (min count p.loops)) }
  done

/-! ## All commands -/

/-- Carries out a built-in command that runs no other commands. -/
def perform (builtin : Builtin) (name : List Char) (arguments : List (List Char)) :
    Eval Ending :=
  match builtin with
  | .idle | .succeed => done
  | .fail => return ([], 1)
  | .defineAlias => performAlias arguments
  | .dropAlias => performUnalias arguments
  | .background | .foreground => performContinue arguments
  | .changeDirectory => performChange arguments
  | .printDirectory => performPrint arguments
  | .command => performCommand arguments
  | .type => performType arguments
  | .hash => performHash arguments
  | .decide => performTest name arguments
  | .echo => answer (echoText arguments)
  | .printFormatted => performPrintf arguments
  | .exit => performExit arguments
  | .leaveFunction => performReturn arguments
  | .leaveLoop => performBreak .break arguments
  | .nextRound => performBreak .continue arguments
  | .publish =>
    performDeclare name Variable.exported (fun v => { v with exported := true }) arguments
  | .preserve =>
    performDeclare name Variable.readonly (fun v => { v with readonly := true }) arguments
  | .localize => performLocalize arguments
  | .unset => performUnset arguments
  | .set => performSet arguments
  | .shift => performShift arguments
  | .getOptions => performGetOptions arguments
  | .read => performRead arguments
  | .trap => performTrap arguments
  | .kill => performKill arguments
  | .jobs => performJobs arguments
  | .mask => performMask arguments
  | .limit => answer "unlimited\n".toList
  | .times => answer "0m0.000000s 0m0.000000s\n0m0.000000s 0m0.000000s\n".toList
  | .source | .evaluate | .exec | .wait => done

end HostPreflight.Machine.Shell
