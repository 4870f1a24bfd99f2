import HostPreflight.Machine.FileTree
import HostPreflight.Machine.Shell.Field
import HostPreflight.Machine.Shell.Token

/-!
# The state of a shell

## Main definitions

* `Stream`, `World` — open files, and what all processes share.
* `Variable`, `Process` — what belongs to one process.
* `State`, `Eval` — computations of a shell.
* `fail` — ends a command with a complaint.
-/

namespace HostPreflight.Machine.Shell

/-! ## What all processes share -/

/-- An open file. -/
inductive Stream where
  /-- What is written is kept, the last text first. -/
  | sink (written : List (List Char))
  /-- What is still to be read. -/
  | source (rest : List Char)
  /-- A file of the tree, with the position in it. -/
  | file (location : Location) (position : Nat) (append readable writable : Bool)
  /-- A directory, which can be opened but not read. -/
  | directory
  /-- Takes everything and has nothing to read. -/
  | null
  deriving DecidableEq

/-- What all processes share: the files and what is open. -/
structure World where
  tree : FileTree
  streams : Array Stream
  /-- The number of the last process. -/
  processes : Nat
  /-- The signals that have been sent, each to a process by its number. -/
  signals : List (Nat × Nat) := []

namespace World

/-- Adds an open file. -/
def addStream (world : World) (stream : Stream) : Nat × World :=
  (world.streams.size, { world with streams := world.streams.push stream })

/-- All that a sink has been given. -/
def received (world : World) (number : Nat) : List Char :=
  match world.streams[number]? with
  | some (.sink written) => written.reverse.flatten
  | _ => []

end World

/-! ## What belongs to one process -/

/-- A variable; one without a value may still be exported. -/
structure Variable where
  value : Option (List Char)
  exported : Bool := false
  readonly : Bool := false
  deriving DecidableEq

/-- What a script does instead of going on with the next command. -/
inductive Skip where
  /-- Leaves that many loops. -/
  | break (loops : Nat)
  /-- Goes on with the next round of the loop that many loops out. -/
  | continue (loops : Nat)
  /-- Leaves a function, or the script, with an exit code that was chosen or with the
  one that is there. -/
  | return (chosen : Bool)
  deriving DecidableEq

/-- A function. -/
structure Function where
  body : Command
  line : Nat

/-- What a process sets aside while a function runs. -/
inductive Aside where
  /-- A variable that is local to the function, as it was before. -/
  | variable (name : List Char) (old : Option Variable)
  /-- The options as they were before. -/
  | options (letters : List Char)

/-- All that is set aside for one function. -/
abbrev Frame := List Aside

/-- How a command that is not waited for has ended. -/
inductive JobEnd where
  | exited (code : Nat)
  | killed (signal : Nat)
  deriving DecidableEq

/-- A command that is not waited for: its place among those of its process, the number
of its own process, and how it has ended if it has. -/
structure Job where
  place : Nat
  number : Nat
  ending : Option JobEnd := none
  isWaited : Bool := false
  deriving DecidableEq

/-- What belongs to one process. -/
structure Process where
  /-- The name of the script. -/
  name : List Char
  number : Nat
  bindings : List (List Char × Variable) := []
  functions : List (List Char × Function) := []
  aliases : List (List Char × List Char) := []
  /-- The programs that have been found by their names, with their paths. -/
  known : List (List Char × List Char) := []
  documents : List (Nat × Word) := []
  /-- The number of the next text in a script. -/
  nextDocument : Nat := 0
  arguments : List (List Char) := []
  /-- Where the reading of options has got to: the next argument, and how much of
  the last one has been read. -/
  nextOption : Nat := 1
  withinOption : Option Nat := none
  /-- The directory in which it runs, and the path that led there. -/
  here : Location
  directory : List Char := []
  descriptors : List (Nat × Nat) := []
  status : Nat := 0
  /-- The exit code of the last command whose output was put into a word. -/
  outputStatus : Nat := 0
  /-- The letters of the options that are on. -/
  options : List Char := []
  /-- What is done on a signal, by its number; number zero is the end. -/
  traps : List (Nat × List Char) := []
  /-- Whether it is a copy of another process, whose number it keeps. -/
  isCopy : Bool := false
  line : Nat := 0
  /-- The line up to which the script has been read. -/
  readLine : Nat := 1
  /-- The command that complains. -/
  command : Option (List Char) := none
  /-- The number of loops around the current command. -/
  loops : Nat := 0
  /-- The number of functions around the current command. -/
  calls : Nat := 0
  skip : Option Skip := none
  frames : List Frame := []
  /-- The commands that are not waited for, the last one first. -/
  jobs : List Job := []
  lastJob : Option Nat := none
  mask : Nat := 18
  /-- The exit code with which the process was told to end; while a trap runs, the
  one from before it. -/
  saved : Option Nat := none

/-- A command that has not been run yet since nobody has waited for it so far, the
process that will run it, and the signal that has ended that before it began. -/
structure Pending where
  process : Process
  number : Nat
  body : Command
  signal : Option Nat := none

/-- The state of a shell. -/
structure State where
  process : Process
  world : World
  pending : List Pending := []

/-- Why a computation ends early. -/
inductive Abort where
  /-- A mistake, which has been complained about. -/
  | mistake
  /-- The process was told to end. -/
  | exit
  /-- The process ends with the exit code that it has. -/
  | stop
  /-- The process has become another program, which has ended. -/
  | replaced
  /-- A signal has ended the process. -/
  | killed (signal : Nat)
  deriving DecidableEq

/-- Computations of a shell. -/
abbrev Eval := ExceptT Abort (StateM State)

/-! ## Access -/

/-- The process that runs. -/
def process : Eval Process := return (← get).process

/-- Changes the process. -/
def modifyProcess (f : Process → Process) : Eval Unit :=
  modify fun state => { state with process := f state.process }

/-- Changes what all processes share. -/
def modifyWorld (f : World → World) : Eval Unit :=
  modify fun state => { state with world := f state.world }

/-- The exit code of the last command. -/
def status : Eval Nat := return (← process).status

/-- Sets the exit code. -/
def setStatus (status : Nat) : Eval Unit := modifyProcess fun p => { p with status }

/-- Sets the line of the current command. -/
def setLine (line : Nat) : Eval Unit := modifyProcess fun p => { p with line }

/-- Whether an option is on. -/
def hasOption (letter : Char) : Eval Bool := return (← process).options.contains letter

/-- The argument with that number. -/
def argument? (p : Process) (n : Nat) : Option (List Char) :=
  if n = 0 then some p.name else p.arguments[n - 1]?

/-- Runs a computation and then another one, however the first one ends. -/
def finally' {α : Type} (body : Eval α) (last : Eval Unit) : Eval α := do
  let result ← tryCatch body fun abort => do
    last
    throw abort
  last
  return result

/-! ## Streams -/

/-- The open file behind a descriptor. -/
def streamNumber (descriptor : Nat) : Eval (Option Nat) :=
  return (← process).descriptors.lookup descriptor

/-- A text with a part replaced from a position on. -/
def overwrite (content : List UInt8) (position : Nat) (octets : List UInt8) : List UInt8 :=
  content.take position ++ List.replicate (position - content.length) 0 ++ octets
    ++ content.drop (position + octets.length)

/-- Writes a text to a stream; false if that is not possible. -/
def World.write (world : World) (number : Nat) (text : List Char) : Bool × World :=
  match world.streams[number]? with
  | some (.sink written) =>
    (true, { world with streams := world.streams.set! number (.sink (text :: written)) })
  | some .null => (true, world)
  | some (.file location position append readable true) =>
    match world.tree.node? location with
    | some (.file content executable) =>
      let octets := toOctets text
      let position := if append then content.length else position
      let node := Node.file (overwrite content position octets) executable
      (true, { world with
        tree := world.tree.put location node
        streams := world.streams.set! number
          (.file location (position + octets.length) append readable true) })
    | _ => (true, world)
  | _ => (false, world)

/-- Writes a text to a descriptor; false if that is not possible. -/
def write (descriptor : Nat) (text : List Char) : Eval Bool := do
  if text.isEmpty then return true
  else
    match ← streamNumber descriptor with
    | none => return false
    | some number =>
      let (written, world) := (← get).world.write number text
      modifyWorld fun _ => world
      return written

/-- Writes a text to the error stream. -/
def writeError (text : List Char) : Eval Unit := do
  let _ ← write 2 text

/-- What is left to read in a stream; none if it cannot be read. -/
def World.unread (world : World) (number : Nat) : Option (List Char) :=
  match world.streams[number]? with
  | some (.source rest) => some rest
  | some .null => some []
  | some (.file location position _ true _) =>
    match world.tree.node? location with
    | some (.file content _) => some (ofOctets (content.drop position))
    | _ => some []
  | _ => none

/-- Moves a stream on after so many characters. -/
def World.advance (world : World) (number count : Nat) : World :=
  match world.streams[number]? with
  | some (.source rest) =>
    { world with streams := world.streams.set! number (.source (rest.drop count)) }
  | some (.file location position append readable writable) =>
    { world with
      streams := world.streams.set! number
        (.file location (position + count) append readable writable) }
  | _ => world

/-! ## Complaints -/

/-- A complaint of a process about a line, on behalf of a command. -/
def complaint (p : Process) (line : Nat) (text : List Char) : List Char :=
  let speaker := match p.command with
    | some command => command ++ [':', ' ']
    | none => []
  p.name ++ [':', ' '] ++ decimal line ++ [':', ' '] ++ speaker ++ text ++ ['\n']

/-- Complains and goes on. -/
def warn (text : List Char) : Eval Unit := do
  let p ← process
  writeError (complaint p p.line text)

/-- Complains and ends the command. -/
def fail {α : Type} (text : List Char) : Eval α := do
  warn text
  setStatus 2
  throw .mistake

/-- Complains about a mistake in the script and ends the command. -/
def failAt {α : Type} (complaint : Complaint) : Eval α := do
  setLine complaint.line
  fail complaint.text

/-- Complains about a text that is no number. -/
def illegalNumber {α : Type} (text : List Char) : Eval α :=
  fail ("Illegal number: ".toList ++ text)

/-- The number that an argument spells. -/
def needCount (text : List Char) : Eval Nat :=
  match count? text with
  | some n => return n
  | none => illegalNumber text

/-- The integer that an argument spells. -/
def needInteger (text : List Char) : Eval Int :=
  match integer? (some 10) text with
  | some n => return n
  | none => illegalNumber text

/-! ## Variables -/

namespace Process

/-- A variable. -/
def find? (p : Process) (name : List Char) : Option Variable := p.bindings.lookup name

/-- The value of a variable. -/
def value? (p : Process) (name : List Char) : Option (List Char) :=
  (p.find? name).bind Variable.value

/-- The variables that do not lose their place when they are unset. -/
def fixedNames : List String :=
  ["IFS", "MAIL", "MAILPATH", "OPTIND", "PATH", "PS1", "PS2", "PS4"]

/-- Puts a variable in the place of the one of that name. -/
def putVariable (p : Process) (name : List Char) (v : Variable) : Process :=
  { p with bindings := (name, v) :: p.bindings.filter (·.1 != name) }

/-- Takes a variable away. -/
def dropVariable (p : Process) (name : List Char) : Process :=
  { p with bindings := p.bindings.filter (·.1 != name) }

/-- Takes the value of a variable away, and the variable with it unless it is fixed. -/
def unsetVariable (p : Process) (name : List Char) : Process :=
  match p.find? name with
  | some v =>
    if fixedNames.contains (String.ofList name) then p.putVariable name { v with value := none }
    else p.dropVariable name
  | none => p

/-- The characters at which fields are split. -/
def separators (p : Process) : List Char := (p.value? "IFS".toList).getD [' ', '\t', '\n']

/-- The reading of options starts again when its variable is set, and programs are
looked for again when other directories may hold them. -/
def noticeVariable (p : Process) (name value : List Char) : Process :=
  if name = "OPTIND".toList then
    { p with nextOption := max 1 ((count? value).getD 1), withinOption := none }
  else if name = "PATH".toList then { p with known := [] }
  else p

/-- The directories in which programs are looked for. -/
def programPath (p : Process) : List Char := (p.value? "PATH".toList).getD []

end Process

/-- Complains about a variable that cannot be changed. -/
def needWritable (name : List Char) : Eval Unit := do
  if (((← process).find? name).map Variable.readonly).getD false then
    fail (name ++ ": is read only".toList)

/-- Complains about a text that is no name of a variable. -/
def needName (name : List Char) : Eval Unit := do
  if !isName name then fail (name ++ ": bad variable name".toList)

/-- Sets a variable, which may be exported by that. -/
def assignVariable (name value : List Char) (exported : Bool) : Eval Unit := do
  needWritable name
  if name = "OPTIND".toList then
    let _ ← needCount value
  modifyProcess fun p =>
    let exported :=
      exported || ((p.find? name).map Variable.exported).getD false || p.options.contains 'a'
    (p.putVariable name { value := some value, exported }).noticeVariable name value

/-- Sets a variable. -/
def setVariable (name value : List Char) : Eval Unit := assignVariable name value false

/-- Sets a variable whose name is an argument. -/
def setNamed (name value : List Char) : Eval Unit := do
  needName name
  setVariable name value

/-- Takes a variable away. -/
def unsetVariable (name : List Char) : Eval Unit := do
  needName name
  needWritable name
  if name = "OPTIND".toList then illegalNumber []
  else modifyProcess fun p => p.unsetVariable name

/-- Sets something aside until the function ends. -/
def setAside (aside : Process → Aside) : Eval Unit :=
  modifyProcess fun p =>
    match p.frames with
    | [] => p
    | frame :: frames => { p with frames := (aside p :: frame) :: frames }

/-- Makes a variable local to the function, which may be exported by that. -/
def localize (name : List Char) (value : Option (List Char)) (exported : Bool) : Eval Unit := do
  let old := (← process).find? name
  match value, old with
  | some value, _ => assignVariable name value exported
  | none, none =>
    needName name
    modifyProcess fun p => p.putVariable name { value := none, exported }
  | none, some _ => pure ()
  setAside fun _ => .variable name old

/-- Restores what was set aside last. -/
def Process.restoreFrame (p : Process) : Process :=
  match p.frames with
  | [] => p
  | frame :: frames =>
    let p := { p with frames }
    frame.foldl (fun p aside =>
      match aside with
      | .variable name (some v) => (p.putVariable name v).noticeVariable name (v.value.getD [])
      | .variable name none => p.dropVariable name
      | .options letters => { p with options := letters }) p

/-- Runs a computation with variables of its own. -/
def withFrame {α : Type} (body : Eval α) : Eval α := do
  modifyProcess fun p => { p with frames := [] :: p.frames }
  finally' body (modifyProcess Process.restoreFrame)

/-! ## Endings -/

/-- What a built-in command writes when it ends, and its exit code. -/
abbrev Ending := List Char × Nat

/-- A command that has done its work and writes nothing. -/
def done : Eval Ending := return ([], 0)

/-- A command that has only something to write. -/
def answer (text : List Char) : Eval Ending := return (text, 0)

end HostPreflight.Machine.Shell
