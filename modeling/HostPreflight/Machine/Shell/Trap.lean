import HostPreflight.Machine.Shell.Job

/-!
# Traps

What a process does when a signal comes in or when it ends, and how signals are
sent.

## Main definitions

* `performTrap`, `performKill` — built-in commands.
* `dieOfSignal`, `takeSignal` — what signals do to the process.
-/

namespace HostPreflight.Machine.Shell

/-- Lists the traps. -/
def listTraps (p : Process) : List Char :=
  (List.range Signal.count).flatMap fun number =>
    match p.traps.lookup number with
    | some action =>
      "trap -- ".toList ++ singleQuoted action ++ ' ' :: Signal.name number ++ ['\n']
    | none => []

/-- Sets what is done on a signal; nothing special if there is no action. -/
def setTrap (number : Nat) (action : Option (List Char)) : Eval Unit :=
  modifyProcess fun p =>
    let others := p.traps.filter (·.1 != number)
    { p with traps := match action with
      | some action => (number, action) :: others
      | none => others }

/-- Sets what is done on some signals, up to one that there is not. -/
def setTraps (action : Option (List Char)) : (names : List (List Char)) → Eval Ending
  | [] => done
  | name :: names => do
    match Signal.number? 0 name with
    | some number =>
      setTrap number action
      setTraps action names
    | none =>
      writeError ("trap: ".toList ++ name ++ ": bad trap\n".toList)
      return ([], 1)

/-- Sets traps or lists them.  A first argument that is a number is no action. -/
def performTrap (arguments : List (List Char)) : Eval Ending := do
  let (_, arguments) ← readSwitches "" arguments
  match arguments with
  | [] => answer (listTraps (← process))
  | [name] => setTraps none [name]
  | action :: names =>
    if !action.isEmpty && action.all isNumeral && (Signal.number? 0 action).isSome then
      setTraps none (action :: names)
    else setTraps (if action = ['-'] then none else some action) names

/-! ## Sending signals -/

/-- How signals are sent. -/
def killUsage : List Char :=
  "Usage: kill [-s sigspec | -signum | -sigspec] [pid | job]... or\nkill -l [exitstatus]".toList

/-- What the arguments of `kill` ask for. -/
structure KillRequest where
  signal : Option Nat := none
  isListing : Bool := false
  targets : List (List Char)

/-- Reads the arguments of `kill`. -/
def killRequest (arguments : List (List Char)) : Eval KillRequest := do
  match arguments with
  | [] => fail killUsage
  | ('-' :: name) :: targets =>
    match Signal.number? 1 name with
    | some number => return { signal := some number, targets }
    | none =>
      let (switches, targets) ← readSwitches "ls:" arguments
      let signals ← (switches.filter (·.letter == 's')).mapM fun switch => do
        match Signal.number? 1 switch.argument with
        | some number => return number
        | none => fail ("invalid signal number or name: ".toList ++ switch.argument)
      return { signal := signals.getLast?, isListing := switches.any (·.letter == 'l'), targets }
  | targets => return { targets }

/-- The names of all signals, or that of one. -/
def listSignals (targets : List (List Char)) : Eval Ending := do
  match targets with
  | [] => answer (['0', '\n'] ++ (Signal.names.drop 1).flatMap fun name => name ++ ['\n'])
  | target :: _ =>
    let code ← needCount target
    let number := if 128 < code then code - 128 else code
    if 0 < number ∧ number < Signal.count then answer (Signal.name number ++ ['\n'])
    else fail ("invalid signal number or exit status: ".toList ++ target)

/-- Whether a signal ends a process. -/
def isDeadly (p : Process) (signal : Nat) : Bool :=
  (p.traps.lookup signal).isNone && !Signal.harmless.contains signal

/-- Sends a signal to a process that is named by its number, or to the one of a job;
false if there is none.  Jobs do not listen to interruptions. -/
def sendSignal (signal : Nat) (target : List Char) : Eval Bool := do
  match target with
  | '-' :: number =>
    let _ ← needCount number
    return false
  | '%' :: _ =>
    let _ ← findJob target
    return false
  | number =>
    let number ← needCount number
    let p ← process
    if number = p.number then
      if signal != 0 then
        modifyWorld fun world => { world with signals := world.signals ++ [(number, signal)] }
      return true
    else
      let pending := (← get).pending
      let isHit (job : Pending) : Bool :=
        job.number == number && job.signal.isNone && isDeadly job.process signal
          && signal != 2 && signal != 3
      let struck := pending.map fun job =>
        if isHit job then { job with signal := some signal } else job
      modify fun state => { state with pending := struck }
      return pending.any (·.number == number)

/-- Sends signals to processes, or lists the signals. -/
def performKill (arguments : List (List Char)) : Eval Ending := do
  let request ← killRequest arguments
  if request.isListing then
    if request.signal.isSome && !request.targets.isEmpty then fail killUsage
    else listSignals request.targets
  else if request.targets.isEmpty then fail killUsage
  else
    let sent ← request.targets.mapM fun target => do
      if ← sendSignal (request.signal.getD 15) target then return true
      else
        warn ("No such process\n".toList)
        return false
    return ([], if sent.all id then 0 else 1)

/-- The signals that have been sent to the process and not been taken yet.  Copies of a
process leave signals to it. -/
def awaited : Eval (List Nat) := do
  let p ← process
  if p.isCopy then return []
  else return ((← get).world.signals.filter (·.1 == p.number)).map (·.2)

/-- Ends the process if a signal that ends it has been sent. -/
def dieOfSignal : Eval Unit := do
  let p ← process
  match (← awaited).filter (isDeadly p) with
  | [] => pure ()
  | number :: numbers =>
    let number := numbers.foldl min number
    setStatus (Signal.exitCode number)
    throw (.killed number)

/-- Takes the next signal for which something is to be done. -/
def takeSignal : Eval (Option Nat) := do
  let p ← process
  match (← awaited).filter fun number => (p.traps.lookup number).isSome with
  | [] => return none
  | number :: numbers =>
    let number := numbers.foldl min number
    modifyWorld fun world =>
      { world with signals := world.signals.filter fun sent => sent != (p.number, number) }
    return some number

end HostPreflight.Machine.Shell
