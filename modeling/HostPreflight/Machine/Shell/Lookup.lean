import HostPreflight.Machine.Shell.Builtin
import HostPreflight.Machine.Shell.Path
import HostPreflight.Machine.Shell.Switch

/-!
# Looking commands up

What the name of a command stands for: a built-in command, a function, or a program
in one of some directories; and the commands that tell.

## Main definitions

* `Found`, `lookUp` — what a name stands for.
* `describe` — what is said about a name.
* `performHash`, `performType`, `performAlias`, `performUnalias` — built-in commands.
-/

namespace HostPreflight.Machine.Shell

open Failure (Cause)

/-! ## Names -/

/-- What the name of a command stands for. -/
inductive Found where
  | builtin (builtin : Builtin)
  | function (function : Function)
  | program (path : List Char)
  | missing (cause : Cause)

/-- The parts of a text between colons. -/
def colonParts : List Char → List (List Char)
  | [] => [[]]
  | c :: cs =>
    if c == ':' then [] :: colonParts cs
    else
      match colonParts cs with
      | [] => [[c]]
      | part :: parts => (c :: part) :: parts

/-- A name in a directory; the empty path is the current one. -/
def inDirectory (directory name : List Char) : List Char :=
  if directory.isEmpty then name else directory ++ '/' :: name

/-- The directories of the programs that every machine has. -/
def standardPath : List Char :=
  "/usr/local/sbin:/usr/local/bin:/usr/sbin:/usr/bin:/sbin:/bin".toList

/-- Whether a node is a program. -/
def isProgram : Node → Bool
  | .file _ executable => executable
  | .shell => true
  | _ => false

/-- Looks for a program at some paths in order.  The cause of a failure is the last
one that is not just that nothing is there. -/
def findProgramAt (state : State) : (cause : Cause) → (paths : List (List Char)) →
    Except Cause (List Char)
  | cause, [] => .error cause
  | cause, path :: paths =>
    match resolvePath state path with
    | .ok (_, node) =>
      if isProgram node then .ok path else findProgramAt state .accessDenied paths
    | .error other =>
      findProgramAt state (if other = .noEntry ∨ other = .notDirectory then cause else other) paths

/-- Looks for a program by its name. -/
def findProgram (state : State) (directories name : List Char) : Except Cause (List Char) :=
  findProgramAt state .noEntry
    ((colonParts directories).map fun directory => inDirectory directory name)

/-- What the name of a command stands for.  A name with a slash is a path. -/
def lookUp (state : State) (withFunctions : Bool) (directories name : List Char) : Found :=
  if name.contains '/' then .program name
  else
    match if withFunctions then state.process.functions.lookup name else none with
    | some function => .function function
    | none =>
      match Builtin.ofName? name with
      | some builtin => .builtin builtin
      | none =>
        match findProgram state directories name with
        | .ok path => .program path
        | .error cause => .missing cause

/-- What is said of a command that is missing. -/
def missingText (name : List Char) (cause : Cause) : List Char :=
  name ++ ':' :: ' ' :: causeText "not found" cause

/-- Remembers where a program is. -/
def remember (name path : List Char) : Eval Unit :=
  modifyProcess fun p => { p with known := (name, path) :: p.known.filter (·.1 != name) }

/-! ## Order -/

/-- The sum of a name's characters, of which the first counts sixteen times more. -/
def nameSum (name : List Char) : Nat :=
  16 * ((name.head?.map Char.toNat).getD 0) + name.foldl (fun sum c => sum + c.toNat) 0

/-- Named things in the order in which they are listed: by the rest that the sums of
their names leave, and then by age, where the oldest is the last one given. -/
def inListOrder {α : Type} (divisor : Nat) (entries : List (List Char × α)) :
    List (List Char × α) :=
  entries.reverse.mergeSort fun a b => nameSum a.1 % divisor ≤ nameSum b.1 % divisor

/-! ## Descriptions -/

/-- The definition of an alias. -/
def aliasText (name value : List Char) : List Char := name ++ '=' :: singleQuoted value ++ ['\n']

/-- What is said about a name, and the exit code; `short` leaves out all but what
stands for it.  A program that is found is remembered. -/
def describe (directories : Option (List Char)) (short : Bool) (name : List Char) :
    Eval Ending := do
  let state ← get
  let description (long brief : List Char) : Ending :=
    (if short then brief ++ ['\n'] else name ++ long ++ ['\n'], 0)
  let unknown : Ending := (if short then [] else name ++ ": not found\n".toList, 127)
  let known := if directories.isNone then state.process.known.lookup name else none
  if reservedWords.contains (String.ofList name) then
    return description " is a shell keyword".toList name
  match state.process.aliases.lookup name with
  | some value =>
    if short then answer ("alias ".toList ++ aliasText name value)
    else return description (" is an alias for ".toList ++ value) []
  | none =>
    match lookUp state true (directories.getD state.process.programPath) name with
    | .builtin builtin =>
      return description
        (if builtin.isSpecial then " is a special shell builtin" else " is a shell builtin").toList
        name
    | .function _ => return description " is a shell function".toList name
    | .program path =>
      if name.contains '/' then
        return if (node? state name).isNone then unknown
          else description (" is ".toList ++ path) path
      else
        if directories.isNone then remember name path
        return description
          ((if known.isSome then " is a tracked alias for " else " is ").toList ++ path) path
    | .missing _ => return unknown

/-- Describes names. -/
def performType (names : List (List Char)) : Eval Ending := do
  let endings ← names.mapM (describe none false)
  return (endings.flatMap (·.1), if endings.any (·.2 != 0) then 127 else 0)

/-- Describes a command, or does nothing if no description is asked for. -/
def performCommand (arguments : List (List Char)) : Eval Ending := do
  let (switches, names) ← readSwitches "pvV" arguments
  let given (letter : Char) : Bool := switches.any (·.letter == letter)
  match names with
  | name :: _ =>
    if given 'v' || given 'V' then
      describe (if given 'p' then some standardPath else none) (!given 'V') name
    else done
  | [] => done

/-- Lists the programs that have been found, or looks for some. -/
def performHash (arguments : List (List Char)) : Eval Ending := do
  let (switches, names) ← readSwitches "r" arguments
  if !switches.isEmpty then
    modifyProcess fun p => { p with known := [] }
    done
  else if names.isEmpty then
    answer ((inListOrder 31 (← process).known).flatMap fun (_, path) => path ++ ['\n'])
  else
    let missing ← names.filterM fun name => do
      match lookUp (← get) true (← process).programPath name with
      | .missing cause =>
        warn (missingText name cause)
        return true
      | .program path =>
        if !name.contains '/' then remember name path
        return false
      | _ => return false
    return ([], if missing.isEmpty then 0 else 1)

/-! ## Aliases -/

/-- Defines aliases, or lists them. -/
def performAlias (arguments : List (List Char)) : Eval Ending := do
  if arguments.isEmpty then
    answer ((inListOrder 39 (← process).aliases).flatMap fun (name, value) => aliasText name value)
  else
    let endings ← arguments.mapM fun argument => do
      match argument.drop 1 |>.span (· != '=') with
      | (rest, _ :: value) =>
        let name := argument.take 1 ++ rest
        modifyProcess fun p =>
          { p with aliases :=
              if p.aliases.any (·.1 == name) then
                p.aliases.map fun entry => if entry.1 == name then (name, value) else entry
              else (name, value) :: p.aliases }
        done
      | (_, []) =>
        match (← process).aliases.lookup argument with
        | some value => answer (aliasText argument value)
        | none =>
          writeError ("alias: ".toList ++ argument ++ " not found\n".toList)
          return ([], 1)
    return (endings.flatMap (·.1), if endings.any (·.2 != 0) then 1 else 0)

/-- Takes aliases away. -/
def performUnalias (arguments : List (List Char)) : Eval Ending := do
  let (switches, names) ← readSwitches "a" arguments
  if !switches.isEmpty then
    modifyProcess fun p => { p with aliases := [] }
    done
  else
    let missing ← names.filterM fun name => do
      if (← process).aliases.any (·.1 == name) then
        modifyProcess fun p => { p with aliases := p.aliases.filter (·.1 != name) }
        return false
      else
        writeError ("unalias: ".toList ++ name ++ " not found\n".toList)
        return true
    return ([], if missing.isEmpty then 0 else 1)

end HostPreflight.Machine.Shell
