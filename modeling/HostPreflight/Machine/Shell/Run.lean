import HostPreflight.Machine.Loading
import HostPreflight.Machine.Shell.Parser
import HostPreflight.Machine.Shell.Perform
import HostPreflight.Machine.Shell.Redirect

/-!
# Running commands

Runs the commands of a script, each as soon as it has been read.  A command that is
tested may fail without ending a script that ends on failures.  Every step takes
fuel, so that a script that does not end is cut off.

A command in a process of its own is run to its end before the next one starts.

## Main definitions

* `run` — runs a command.
* `runScript` — reads commands and runs them.
* `runShell` — runs a shell from its arguments.
-/

namespace HostPreflight.Machine.Shell

/-! ## Processes -/

/-- A copy of a process, which does not keep its traps but ignores what the process
ignores. -/
def Process.copied (p : Process) : Process :=
  { p with isCopy := true, jobs := [], traps := p.traps.filter (·.2.isEmpty) }

/-- The number of a new process. -/
def newNumber : Eval Nat := do
  modifyWorld fun world => { world with processes := world.processes + 1 }
  return (← get).world.processes

/-- Runs a computation and tells how it ended early, if it did. -/
def attempt (body : Eval Unit) : Eval (Option Abort) :=
  tryCatch (do
    body
    return none) fun abort => return some abort

/-- The exit code after a computation that has ended early: one that was chosen
counts. -/
def settleAbort (abort : Option Abort) : Eval Unit :=
  modifyProcess fun p =>
    let status := if abort = some .exit then p.saved.getD p.status else p.status
    { p with status, saved := none, skip := none, loops := 0 }

/-- Whether nothing can be run in the process any more. -/
def Abort.isFinal : Abort → Bool
  | .replaced | .killed _ => true
  | _ => false

/-- The part of an exit code that other processes see. -/
def visibleStatus (status : Nat) : Nat := status % 256

/-! ## Loops -/

/-- How a loop goes on after a round. -/
inductive AfterRound where
  | on
  | again
  | stop (returns : Bool)
  deriving DecidableEq

/-- Says how a loop goes on after a round, and takes note that one loop has been
left. -/
def afterRound : Eval AfterRound := do
  let skip (skip : Option Skip) : Eval Unit := modifyProcess fun p => { p with skip }
  match (← process).skip with
  | none => return .on
  | some (.break (n + 2)) =>
    skip (some (.break (n + 1)))
    return .stop false
  | some (.break _) =>
    skip none
    return .stop false
  | some (.continue (n + 2)) =>
    skip (some (.continue (n + 1)))
    return .stop false
  | some (.continue _) =>
    skip none
    return .again
  | some (.return chosen) => return .stop chosen

/-- Counts a loop for the time of a computation. -/
def inLoop (body : Eval Unit) : Eval Unit := do
  modifyProcess fun p => { p with loops := p.loops + 1 }
  body
  modifyProcess fun p => { p with loops := p.loops - 1 }

/-! ## Simple commands -/

/-- How many functions may run inside each other. -/
def callLimit : Nat := 1000

/-- What a simple command comes to once its words have been expanded. -/
structure Call where
  /-- All fields, as they are shown when the script is traced. -/
  shown : List (List Char)
  /-- The name and the arguments. -/
  fields : List (List Char)
  /-- The function or built-in command that is run. -/
  found : Option Found := none
  /-- Whether the first command is a special one. -/
  isSpecial : Bool := false
  /-- Whether variables in front are set for the time of the command. -/
  isTemporary : Bool := false
  /-- Whether functions count. -/
  withFunctions : Bool := true
  /-- The directories in which a program is looked for, if not the usual ones. -/
  directories : Option (List Char) := none

/-- Expands words up to one that makes fields: the fields, and the other words. -/
def firstFields (capture : Capture) : List Word → Eval (List (List Char) × List Word)
  | [] => return ([], [])
  | word :: words => do
    match ← expandFields capture word with
    | [] => firstFields capture words
    | fields => return (fields, words)

/-- The fields and words of a command that are not used up yet. -/
structure Remaining where
  fields : List (List Char)
  words : List Word

/-- Takes the next field. -/
def Remaining.next (capture : Capture) (remaining : Remaining) :
    Eval (Option (List Char × Remaining)) := do
  match remaining.fields with
  | field :: fields => return some (field, { remaining with fields })
  | [] =>
    match ← firstFields capture remaining.words with
    | (field :: fields, words) => return some (field, ⟨fields, words⟩)
    | ([], _) => return none

/-- What comes after the switches of a command that runs another command. -/
inductive AfterSwitches where
  /-- The name of the other command and what is left after it. -/
  | command (name : List Char) (remaining : Remaining)
  /-- It does not run another command. -/
  | nothing

/-- Takes the switches of a command that runs another command: what comes after them,
all fields taken, and whether the other command is looked for among the standard
programs. -/
def takeCommandSwitches (capture : Capture) : (fuel : Nat) → (taken : List (List Char)) →
    (standard : Bool) → Remaining → Eval (AfterSwitches × List (List Char) × Bool × Remaining)
  | 0, taken, standard, remaining => return (.nothing, taken, standard, remaining)
  | fuel + 1, taken, standard, remaining => do
    match ← remaining.next capture with
    | none => return (.nothing, taken, standard, { remaining with words := [] })
    | some (field, after) =>
      let taken := taken ++ [field]
      match field with
      | ['-', '-'] =>
        match ← after.next capture with
        | none => return (.nothing, taken, standard, { after with words := [] })
        | some (name, rest) => return (.command name rest, taken ++ [name], standard, rest)
      | '-' :: c :: letters =>
        if (c :: letters).all (· == 'p') then takeCommandSwitches capture fuel taken true after
        else return (.nothing, taken, standard, after)
      | name => return (.command name after, taken, standard, after)

/-- Finds out what a name runs, where a command may run another one: what is left
after the last name, and whether arguments may assign variables. -/
def follow (capture : Capture) : (fuel : Nat) → Call → (name : List Char) → Remaining →
    Eval (Call × Remaining × Bool)
  | 0, call, _, remaining => return (call, remaining, false)
  | fuel + 1, call, name, remaining => do
    let found := lookUp (← get) call.withFunctions [] name
    let call := { call with found := some found }
    match found with
    | .builtin .command =>
      let (after, taken, standard, rest) ←
        takeCommandSwitches capture (fuel + 1) [] false remaining
      let call := { call with shown := call.shown ++ taken }
      match after with
      | .nothing => return ({ call with fields := name :: taken }, rest, false)
      | .command name rest =>
        let directories := if standard then some standardPath else call.directories
        follow capture fuel { call with fields := [name], withFunctions := false, directories } name
          rest
    | .builtin builtin => return (call, remaining, builtin.takesAssignments)
    | _ => return (call, remaining, false)

/-- Whether the name of a command is that of a special built-in command. -/
def Found.isSpecial : Found → Bool
  | .builtin known => known.isSpecial
  | _ => false

/-- Expands the words of a simple command and finds out what it runs. -/
def identify (capture : Capture) (words : List Word) : Eval Call := do
  match ← firstFields capture words with
  | ([], _) => return { shown := [], fields := [] }
  | (name :: fields, words) =>
    let isSpecial := (lookUp (← get) true [] name).isSpecial
    let start : Call := { shown := [name], fields := [name], isSpecial, isTemporary := !isSpecial }
    let (call, remaining, assigning) ←
      follow capture (fields.length + words.length + 1) start name ⟨fields, words⟩
    let others ← remaining.words.mapM fun word => do
      match if assigning then assignment? word else none with
      | some (name, value) => return [name ++ '=' :: (← expandText capture .assigned value)]
      | none => expandFields capture word
    let others := remaining.fields ++ others.flatten
    return { call with shown := call.shown ++ others, fields := call.fields ++ others }

/-- Sets the variables in front of a command: the texts of the assignments. -/
def assignAll (capture : Capture) (isTemporary isExported : Bool) (assignments : List Word) :
    Eval (List (List Char)) :=
  assignments.mapM fun word => do
    match assignment? word with
    | some (name, value) =>
      let value ← expandText capture .assigned value
      if isTemporary then localize name (some value) true
      else assignVariable name value isExported
      return name ++ '=' :: value
    | none => return []

/-- The text in front of the commands of a script that is traced. -/
def tracePrompt (capture : Capture) : Eval (List Char) := do
  let p ← process
  let text := (p.value? "PS4".toList).getD []
  let input : Input := { rest := text, line := 1, nextDocument := p.nextDocument }
  match (pieces (32 * text.length + 64) .document).run input with
  | .error _ => return text
  | .ok (word, _) =>
    modifyProcess fun p => { p with options := p.options.filter (· != 'x') }
    let shown ← tryCatch (expandText capture {} word) fun _ => return text
    modifyProcess fun q => { q with options := p.options, status := p.status }
    return shown

/-- Shows a command if the script is traced. -/
def trace (capture : Capture) (descriptor : Option Nat) (texts : List (List Char)) :
    Eval Unit := do
  if ← hasOption 'x' then
    let text := (← tracePrompt capture) ++ [' '].intercalate texts ++ ['\n']
    match descriptor with
    | some number =>
      let (_, world) := (← get).world.write number text
      modifyWorld fun _ => world
    | none => pure ()

/-- Restores what was set aside until only so many functions run. -/
def restoreFrames (depth : Nat) : Eval Unit :=
  modifyProcess fun p => (List.range (p.frames.length - depth)).foldl (fun p _ => p.restoreFrame) p

/-- The exit code of a program that cannot be run. -/
def failureStatus (cause : Failure.Cause) : Nat :=
  if [.noEntry, .notDirectory, .nameTooLong, .tooManyLinks].contains cause then 127 else 126

/-- Whether a failure of the command ends a script that ends on failures. -/
def Command.isChecked : Command → Bool
  | .simple .. => true
  | .subshell .. => true
  | .background .. => true
  | .pipeline _ => true
  | _ => false

/-- The file that holds the commands of a name, which is looked for among the programs
unless it is a path. -/
def sourcePath (name : List Char) : Eval (List Char) := do
  if name.contains '/' then return name
  else
    let state ← get
    let paths := (colonParts state.process.programPath).map fun directory =>
      inDirectory directory name
    match paths.find? fun path => ((node? state path).map Condition.isRegular).getD false with
    | some path => return path
    | none => fail (name ++ ": not found".toList)

/-- The first lines of a text. -/
def firstLines (count : Nat) : List Char → List Char
  | [] => []
  | c :: cs =>
    if count = 0 then [] else c :: firstLines (if c == '\n' then count - 1 else count) cs

/-- All that can be read from an open file, which is used up by that. -/
def readAll (number : Nat) : Eval (List Char) := do
  let text := ((← get).world.unread number).getD []
  modifyWorld fun world => world.advance number text.length
  return text

/-- The variables that other programs are given. -/
def Process.environment (p : Process) : List (List Char × List Char) :=
  p.bindings.filterMap fun (name, v) =>
    match v.value with
    | some value => if v.exported then some (name, value) else none
    | none => none

/-- The variables of a new shell. -/
def initialVariables (environment : List (List Char × List Char)) : List (List Char × Variable) :=
  let exported := (environment.filter fun (name, _) => isName name).map fun (name, value) =>
    (name, ({ value := some value, exported := true } : Variable))
  let keep (name value : String) : List Char × Variable :=
    let exported := exported.any (·.1 == name.toList)
    (name.toList, { value := some value.toList, exported })
  let offer (name value : String) : List (List Char × Variable) :=
    if exported.any (·.1 == name.toList) then []
    else [(name.toList, { value := some value.toList })]
  let always := [keep "IFS" " \t\n", keep "OPTIND" "1", keep "PPID" "1"]
  always ++ exported.filter (fun entry => !(always.any (·.1 == entry.1)))
    ++ [("PS1", "# "), ("PS2", "> "), ("PS4", "+ "), ("PATH", String.ofList standardPath)].flatMap
      fun (name, value) => offer name value

/-- A new shell. -/
def newProcess (number : Nat) (name : List Char) (here : Location)
    (environment : List (List Char × List Char)) (descriptors : List (Nat × Nat)) (mask : Nat) :
    Process :=
  let directory := locationPath here
  let p : Process :=
    { name, number, here, directory, descriptors, mask, bindings := initialVariables environment }
  p.putVariable "PWD".toList { value := some directory, exported := true }

mutual

/-- Runs a command. -/
def run : (fuel : Nat) → (tested : Bool) → Command → Eval Unit
  | 0, _, _ => throw .stop
  | fuel + 1, tested, command => do
    if ← hasOption 'n' then runTraps fuel
    else
      runTraps fuel
      runForm fuel tested command
      runTraps fuel
      if command.isChecked && !tested && (← status) != 0 && (← hasOption 'e') then throw .stop

/-- Runs a command of each form. -/
def runForm : (fuel : Nat) → (tested : Bool) → Command → Eval Unit
  | 0, _, _ => throw .stop
  | fuel + 1, tested, command => do
    match command with
    | .nothing => pure ()
    | .simple line assignments words redirections =>
      setLine line
      runSimple fuel tested assignments words redirections
    | .redirected line body redirections =>
      setLine line
      let openings ← expandRedirections (capture fuel) redirections
      withOpenings (capture fuel) openings (run fuel tested body) (do
        if !tested && (← hasOption 'e') then
          runTraps fuel
          throw .stop)
    | .subshell line body redirections =>
      setLine line
      let openings ← expandRedirections (capture fuel) redirections
      let status ← runCopy fuel (fun p => p) (do
        carryOutOpenings (capture fuel) false openings
        run fuel tested body)
      setStatus status
      dieOfSignal
    | .background line body =>
      setLine line
      let number ← newNumber
      let null ← addStream .null
      let copy := (← process).copied.setDescriptor 0 (some null)
      modify fun state =>
        { state with pending := state.pending ++ [{ process := copy, number, body }] }
      modifyProcess fun p => { addJob p number with status := 0 }
    | .pipeline commands => runPipeline fuel tested none commands
    | .negation body =>
      run fuel true body
      if (← process).skip.isNone then setStatus (if (← status) = 0 then 1 else 0)
    | .both first second =>
      run fuel true first
      if (← status) = 0 && (← process).skip.isNone then run fuel tested second
    | .either first second =>
      run fuel true first
      if (← status) ≠ 0 && (← process).skip.isNone then run fuel tested second
    | .sequence first second =>
      run fuel tested first
      if (← process).skip.isNone then run fuel tested second
    | .choice test yes no =>
      run fuel true test
      if (← process).skip.isNone then
        if (← status) = 0 then run fuel tested yes
        else
          match no with
          | some no => run fuel tested no
          | none => setStatus 0
    | .loop expected test body => inLoop (runLoop fuel tested expected test body 0)
    | .forEach line name words body =>
      setLine line
      let fields ← words.mapM (expandFields (capture fuel))
      inLoop (runEach fuel tested name fields.flatten body 0)
    | .select line subject arms =>
      setLine line
      let text ← expandText (capture fuel) .single subject
      runArm fuel tested text arms
    | .define line name body =>
      modifyProcess fun p =>
        let others := p.functions.filter (·.1 != name)
        { p with functions := (name, ⟨body, line⟩) :: others, status := 0 }

/-- Repeats a body as long as a test has the expected success.  The exit code is that
of the last round. -/
def runLoop : (fuel : Nat) → (tested expected : Bool) → (test body : Command) →
    (last : Nat) → Eval Unit
  | 0, _, _, _, _, _ => throw .stop
  | fuel + 1, tested, expected, test, body, last => do
    run fuel true test
    match ← afterRound with
    | .stop true => pure ()
    | .stop false => setStatus last
    | .again => runLoop fuel tested expected test body last
    | .on =>
      if ((← status) = 0) = (expected = true) then
        run fuel tested body
        let last ← status
        match ← afterRound with
        | .stop _ => pure ()
        | _ => runLoop fuel tested expected test body last
      else setStatus last

/-- Runs a body for each of some texts.  The exit code is that of the last round. -/
def runEach : (fuel : Nat) → (tested : Bool) → (name : List Char) → (texts : List (List Char)) →
    (body : Command) → (last : Nat) → Eval Unit
  | 0, _, _, _, _, _ => throw .stop
  | _ + 1, _, _, [], _, last => setStatus last
  | fuel + 1, tested, name, text :: texts, body, _ => do
    setVariable name text
    run fuel tested body
    let last ← status
    match ← afterRound with
    | .stop _ => pure ()
    | _ => runEach fuel tested name texts body last

/-- Runs the body of the first arm with a pattern that matches. -/
def runArm : (fuel : Nat) → (tested : Bool) → (text : List Char) →
    (arms : List (List Word × Command)) → Eval Unit
  | 0, _, _, _ => throw .stop
  | _ + 1, _, _, [] => setStatus 0
  | fuel + 1, tested, text, (patterns, body) :: arms => do
    let hit ← patterns.anyM fun pattern => do
      return isMatch (← expandPattern (capture fuel) pattern) text
    if hit then
      match body with
      | .nothing => setStatus 0
      | body => run fuel tested body
    else runArm fuel tested text arms

/-- Runs commands one after the other, each on the output of the one before it. -/
def runPipeline : (fuel : Nat) → (tested : Bool) → (input : Option Nat) → List Command → Eval Unit
  | 0, _, _, _ => throw .stop
  | _ + 1, _, _, [] => pure ()
  | fuel + 1, tested, input, command :: commands => do
    let withInput (p : Process) : Process :=
      match input with
      | some number => p.setDescriptor 0 (some number)
      | none => p
    if commands.isEmpty then
      setStatus (← runCopy fuel withInput (run fuel tested command))
      dieOfSignal
    else
      let sink ← addStream (.sink [])
      let enter := fun p => (withInput p).setDescriptor 1 (some sink)
      let _ ← runCopy fuel enter (run fuel tested command)
      let source ← addStream (.source ((← get).world.received sink))
      runPipeline fuel tested (some source) commands

/-- The output of a command. -/
def capture : (fuel : Nat) → Command → Eval (List Char)
  | 0, _ => throw .stop
  | _ + 1, .nothing => return []
  | fuel + 1, command => do
    let sink ← addStream (.sink [])
    let outputStatus ←
      runCopy fuel (fun p => p.setDescriptor 1 (some sink)) (run fuel false command)
    modifyProcess fun p => { p with outputStatus }
    dieOfSignal
    return (← get).world.received sink

/-- Runs a computation in a copy of the process: its exit code. -/
def runCopy : (fuel : Nat) → (change : Process → Process) → (body : Eval Unit) → Eval Nat
  | 0, _, _ => throw .stop
  | fuel + 1, change, body => do
    runPending fuel
    modifyProcess fun p => (takePlace p).2
    match ← runAside fuel (change (← process).copied) body with
    | .exited code => return code
    | .killed signal =>
      writeError (Signal.obituary signal)
      return Signal.exitCode signal

/-- Runs a computation in another process, and tells how that has ended. -/
def runAside : (fuel : Nat) → (other : Process) → (body : Eval Unit) → Eval JobEnd
  | 0, _, _ => throw .stop
  | fuel + 1, other, body => do
    let before ← process
    modifyProcess fun _ => other
    let abort ← attempt body
    conclude fuel abort
    let code := visibleStatus (← status)
    modifyProcess fun _ => before
    match abort with
    | some (.killed signal) => return .killed signal
    | _ => return .exited code

/-- Runs the commands that nobody has waited for so far. -/
def runPending : (fuel : Nat) → Eval Unit
  | 0 => throw .stop
  | fuel + 1 => do
    let jobs := (← get).pending
    modify fun state => { state with pending := [] }
    runJobs fuel jobs

/-- Runs jobs one after the other. -/
def runJobs : (fuel : Nat) → (jobs : List Pending) → Eval Unit
  | 0, _ => throw .stop
  | _ + 1, [] => pure ()
  | fuel + 1, job :: jobs => do
    let ending ← match job.signal with
      | some signal => pure (JobEnd.killed signal)
      | none => runAside fuel job.process (run fuel false job.body)
    modifyProcess fun p => endJob p job.number ending
    runJobs fuel jobs

/-- Waits for jobs, up to a signal for which something is to be done. -/
def runWait : (fuel : Nat) → (arguments : List (List Char)) → Eval Ending
  | 0, _ => throw .stop
  | fuel + 1, arguments => do
    let lately := (← get).pending.map Pending.number
    runPending fuel
    dieOfSignal
    match ← awaited with
    | [] => performWait lately arguments
    | signal :: signals => return ([], Signal.exitCode (signals.foldl min signal))

/-- Ends a process, and runs what was to be done at the end. -/
def conclude : (fuel : Nat) → (abort : Option Abort) → Eval Unit
  | 0, _ => pure ()
  | fuel + 1, abort => do
    settleAbort abort
    if (abort.map Abort.isFinal).getD false then pure ()
    else
      match (← process).traps.lookup 0 with
      | some action =>
        let before ← status
        setTrap 0 none
        modifyProcess fun p => { p with saved := some before }
        let abort ← attempt (do
          let _ ← runText fuel false action)
        settleAbort (some (abort.getD .exit))
      | none => pure ()
    runPending fuel

/-- Does what is to be done on the signals that have come in. -/
def runTraps : (fuel : Nat) → Eval Unit
  | 0 => pure ()
  | fuel + 1 => do
    if (← process).skip.isNone then
      dieOfSignal
      match ← takeSignal with
      | none => pure ()
      | some number =>
        let p ← process
        let before := p.saved.getD p.status
        modifyProcess fun p => { p with saved := some before }
        let _ ← runText fuel false ((p.traps.lookup number).getD [])
        modifyProcess fun q =>
          let status := if q.skip = some (.return true) then q.status else before
          { q with saved := p.saved, status }
        runTraps fuel

/-- Runs a simple command. -/
def runSimple : (fuel : Nat) → (tested : Bool) → (assignments words : List Word) →
    (redirections : List Redirection) → Eval Unit
  | 0, _, _, _, _ => throw .stop
  | fuel + 1, tested, assignments, words, redirections => do
    modifyProcess fun p => { p with outputStatus := 0 }
    let call ← identify (capture fuel) words
    let depth := (← process).frames.length
    if call.isTemporary then modifyProcess fun p => { p with frames := [] :: p.frames }
    let openings ← expandRedirections (capture fuel) redirections
    let before ← process
    let keeps := match call.found with
      | some (.builtin .exec) => true
      | _ => false
    let body : Eval Unit := do
      if ← tryOpenings (capture fuel) openings then
        let exported := keeps && 1 < call.fields.length
        let texts ← assignAll (capture fuel) call.isTemporary exported assignments
        trace (capture fuel) (before.descriptors.lookup 2) (texts ++ call.shown)
        match call.fields with
        | [] => setStatus (← process).outputStatus
        | name :: arguments => runCall fuel tested call name arguments
      else
        setStatus 2
        if call.isSpecial then throw .mistake
    let abort ← attempt body
    if !keeps || abort.isSome then restoreDescriptors before openings
    match abort with
    | some abort => throw abort
    | none => restoreFrames depth

/-- Runs what a simple command comes to. -/
def runCall : (fuel : Nat) → (tested : Bool) → Call → (name : List Char) →
    (arguments : List (List Char)) → Eval Unit
  | 0, _, _, _, _ => throw .stop
  | fuel + 1, tested, call, name, arguments => do
    match call.found with
    | some (.builtin builtin) =>
      match ← attempt (runBuiltin fuel tested builtin name arguments call.directories) with
      | none => pure ()
      | some .mistake => if call.isSpecial then throw .mistake
      | some abort => throw abort
    | some (.function function) => runFunction fuel tested function arguments
    | _ =>
      let state ← get
      match lookUp state false (call.directories.getD state.process.programPath) name with
      | .program path =>
        if !name.contains '/' && call.directories.isNone then remember name path
        let number ← newNumber
        setStatus (← runCopy fuel id (do
          throw ((← runProgram fuel number name path arguments).getD .replaced)))
        dieOfSignal
      | .missing cause =>
        warn (missingText name cause)
        setStatus 127
      | _ => pure ()

/-- Runs a built-in command.  What it writes at its end comes after its complaints. -/
def runBuiltin : (fuel : Nat) → (tested : Bool) → Builtin → (name : List Char) →
    (arguments : List (List Char)) → (directories : Option (List Char)) → Eval Unit
  | 0, _, _, _, _, _ => throw .stop
  | fuel + 1, tested, builtin, name, arguments, directories => do
    let before := (← process).command
    modifyProcess fun p => { p with command := some name }
    finally' (do
      let (output, status) ← match builtin with
        | .evaluate => runEvaluate fuel tested arguments
        | .source => runSource fuel arguments
        | .exec => runExec fuel arguments directories
        | .wait => runWait fuel arguments
        | builtin => perform builtin name arguments
      if ← write 1 output then setStatus status
      else
        warn (name ++ ": I/O error".toList)
        setStatus (status ||| 1))
      (modifyProcess fun p => { p with command := before })

/-- Runs a function. -/
def runFunction : (fuel : Nat) → (tested : Bool) → Function → (arguments : List (List Char)) →
    Eval Unit
  | 0, _, _, _ => throw .stop
  | fuel + 1, tested, function, arguments => do
    let before ← process
    if callLimit ≤ before.calls then
      fail ("Maximum function recursion depth (".toList ++ decimal callLimit ++ ") reached".toList)
    setArguments arguments
    modifyProcess fun p => { p with loops := 0, calls := before.calls + 1 }
    finally' (run fuel tested function.body) (modifyProcess fun p =>
      { p with
        arguments := before.arguments
        nextOption := before.nextOption
        withinOption := before.withinOption
        loops := before.loops
        calls := before.calls
        skip := none })

/-- Turns the process into a program. -/
def runExec : (fuel : Nat) → (arguments : List (List Char)) → (directories : Option (List Char)) →
    Eval Ending
  | 0, _, _ => throw .stop
  | fuel + 1, arguments, directories => do
    match arguments with
    | [] => done
    | name :: arguments =>
      let state ← get
      match lookUp state false (directories.getD state.process.programPath) name with
      | .missing cause =>
        warn (missingText name cause)
        setStatus (failureStatus cause)
        throw .stop
      | found =>
        let path := match found with
          | .program path => path
          | _ => name
        let number ← if state.process.isCopy then newNumber else pure state.process.number
        throw ((← runProgram fuel number name path arguments).getD .stop)

/-- Runs the commands that some arguments make together. -/
def runEvaluate : (fuel : Nat) → (tested : Bool) → (arguments : List (List Char)) → Eval Ending
  | 0, _, _ => throw .stop
  | fuel + 1, tested, arguments => do
    if arguments.isEmpty then done
    else return ([], ← runText fuel tested ([' '].intercalate arguments))

/-- Runs the commands in a file. -/
def runSource : (fuel : Nat) → (arguments : List (List Char)) → Eval Ending
  | 0, _ => throw .stop
  | fuel + 1, arguments => do
    let (_, names) ← readSwitches "" arguments
    match names with
    | [] => done
    | name :: _ =>
      let path ← sourcePath name
      let text ← readAll (← openFile .read path)
      let readLine := (← process).readLine
      modifyProcess fun p => { p with command := some path }
      let status ← runScript fuel false true { rest := text, line := 1, nextDocument := 0 } 0
      modifyProcess fun p => { p with readLine, command := some name }
      return ([], status)

/-- Runs the commands in a text: the exit code of the last one. -/
def runText : (fuel : Nat) → (tested : Bool) → (text : List Char) → Eval Nat
  | 0, _, _ => throw .stop
  | fuel + 1, tested, text => do
    let readLine := (← process).readLine
    let status ← runScript fuel tested false { rest := text, line := 1, nextDocument := 0 } 0
    modifyProcess fun p => { p with readLine }
    return status

/-- Reads commands and runs them: the exit code of the last one.  A script in a file
is shown while it is read if that is asked for, and can be left by `return`. -/
def runScript : (fuel : Nat) → (tested isFile : Bool) → Input → (last : Nat) → Eval Nat
  | 0, _, _, _, _ => throw .stop
  | fuel + 1, tested, isFile, input, last => do
    let p ← process
    let input :=
      { input with aliases := p.aliases, nextDocument := p.nextDocument, documents := [] }
    match input.nextCommand with
    | .error complaint =>
      if isFile && (← hasOption 'v') then
        writeError (firstLines (complaint.line - input.line + 1) input.rest)
      failAt complaint
    | .ok (none, _) => return last
    | .ok (some command, after) =>
      modifyProcess fun p =>
        { p with
          documents := after.documents ++ p.documents
          nextDocument := after.nextDocument
          readLine := after.line }
      if isFile && (← hasOption 'v') then
        writeError (input.rest.take (input.rest.length - after.rest.length))
      run fuel tested command
      let last ← match command with
        | .nothing => pure last
        | _ => status
      match (← process).skip with
      | none => runScript fuel tested isFile after last
      | some (.return _) =>
        if isFile then modifyProcess fun p => { p with skip := none }
        return last
      | some _ => return last

/-- Runs a program in the place of the process, and tells how that has ended it; none if
there is no such program.  A file that names no interpreter is a script. -/
def runProgram : (fuel : Nat) → (number : Nat) → (name path : List Char) →
    (arguments : List (List Char)) → Eval (Option Abort)
  | 0, _, _, _, _ => throw .stop
  | fuel + 1, number, name, path, arguments => do
    let state ← get
    let p := state.process
    let become (name : List Char) (arguments : List (List Char)) : Eval (Option Abort) := do
      modifyProcess fun _ => newProcess number name p.here p.environment p.descriptors p.mask
      runShell fuel arguments
    match state.world.tree.load p.here (toOctets path) (toOctets name) (arguments.map toOctets) with
    | .ok (name, arguments) => become (ofOctets name) (arguments.map ofOctets)
    | .error .execFormat => become "/bin/sh".toList (path :: arguments)
    | .error cause =>
      warn (missingText name cause)
      setStatus (failureStatus cause)
      return none

/-- Runs a shell from its arguments in a new process, and tells how that has ended. -/
def runShell : (fuel : Nat) → (arguments : List (List Char)) → Eval (Option Abort)
  | 0, _ => throw .stop
  | fuel + 1, arguments => do
    let abort ← attempt (do
      let options ← readOptions { arguments, atStart := true }
      let _ ← write 1 options.output
      match options.arguments with
      | [] =>
        if options.isInline then fail "-c requires an argument".toList
        else
          modifyProcess fun p => { p with options := switchOption p.options 's' true }
          runInput fuel
      | first :: rest =>
        if options.isInline then
          modifyProcess fun p => { p with name := rest.head?.getD p.name, arguments := rest.drop 1 }
          let _ ← runText fuel false first
          if ← hasOption 's' then runInput fuel
        else if ← hasOption 's' then
          modifyProcess fun p => { p with arguments := first :: rest }
          runInput fuel
        else
          let text ← readAll (← openFile .read first)
          modifyProcess fun p => { p with name := first, arguments := rest }
          let _ ← runScript fuel false true { rest := text, line := 1, nextDocument := 0 } 0)
    conclude fuel abort
    match abort with
    | some (.killed number) => return some (.killed number)
    | _ => return some .replaced

/-- Runs the commands in the input. -/
def runInput : (fuel : Nat) → Eval Unit
  | 0 => throw .stop
  | fuel + 1 => do
    match ← streamNumber 0 with
    | some number =>
      let text ← readAll number
      let _ ← runScript fuel false true { rest := text, line := 1, nextDocument := 0 } 0
    | none => pure ()

end

end HostPreflight.Machine.Shell
