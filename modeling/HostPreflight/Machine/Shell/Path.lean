import HostPreflight.Machine.Shell.State

/-!
# Paths of the shell

How a shell opens files, and the names that a pattern stands for.

## Main definitions

* `openFile mode path` — opens a file.
* `node?`, `observed?` — what stands at a path.
* `namesMatching pattern` — the paths that a pattern matches, in order.
-/

namespace HostPreflight.Machine.Shell

open Failure (Cause)

/-- The location and the node that a path leads to. -/
def resolvePath (state : State) (path : List Char) : Except Cause (Location × Node) :=
  state.world.tree.resolve state.process.here (toOctets path)

/-- The node that a path leads to. -/
def node? (state : State) (path : List Char) : Option Node :=
  (resolvePath state path).toOption.map (·.2)

/-- The node that a path names, a link at its end not followed. -/
def observed? (state : State) (path : List Char) : Option Node :=
  state.world.tree.observe state.process.here (toOctets path)

/-! ## Opening -/

/-- What is said when a path leads nowhere, and else the description of the cause. -/
def causeText (nowhere : String) (cause : Cause) : List Char :=
  if cause = .noEntry ∨ cause = .notDirectory then nowhere.toList else cause.description.toList

/-- Complains that a file cannot be opened. -/
def failOpen {α : Type} (path : List Char) (cause : Cause) : Eval α :=
  fail ("cannot open ".toList ++ path ++ ": ".toList ++ causeText "No such file" cause)

/-- Complains that a file cannot be made. -/
def failCreate {α : Type} (path : List Char) (cause : Cause) : Eval α :=
  fail ("cannot create ".toList ++ path ++ ": ".toList
    ++ causeText "Directory nonexistent" cause)

/-- Adds an open file. -/
def addStream (stream : Stream) : Eval Nat := do
  let (number, world) := (← get).world.addStream stream
  modifyWorld fun _ => world
  return number

/-- The descriptor that a path stands for. -/
def deviceDescriptor? (path : List Char) : Option Nat :=
  if path = "/dev/stdin".toList then some 0
  else if path = "/dev/stdout".toList then some 1
  else if path = "/dev/stderr".toList then some 2
  else if "/dev/fd/".toList.isPrefixOf path then count? (path.drop 8)
  else none

/-- Opens a file to read it. -/
def openToRead (path : List Char) : Eval Nat := do
  match resolvePath (← get) path with
  | .error cause => failOpen path cause
  | .ok (location, .file ..) => addStream (.file location 0 false true false)
  | .ok (_, .directory) => addStream .directory
  | .ok _ => addStream .null

/-- Opens a file to write it, and makes it if it is not there. -/
def openToWrite (path : List Char) (keep append readable protect : Bool) : Eval Nat := do
  let state ← get
  let stream (location : Location) : Stream := .file location 0 append readable true
  let put (location : Location) (node : Node) : Eval Unit :=
    modifyWorld fun world => { world with tree := world.tree.put location node }
  match state.world.tree.locate state.process.here (toOctets path) with
  | .error cause => failCreate path cause
  | .ok (location, none) =>
    put location (.file [] false)
    addStream (stream location)
  | .ok (location, some (.file _ executable)) =>
    if protect then failCreate path .alreadyExists
    else
      if !keep then put location (.file [] executable)
      addStream (stream location)
  | .ok (_, some .directory) =>
    if protect then failOpen path .isDirectory else failCreate path .isDirectory
  | .ok _ => addStream .null

/-- Opens a file. -/
def openFile (mode : OpenMode) (path : List Char) : Eval Nat := do
  match deviceDescriptor? path with
  | some descriptor =>
    match ← streamNumber descriptor with
    | some number => return number
    | none => if mode = .read then failOpen path .noEntry else failCreate path .noEntry
  | none =>
    match mode with
    | .read => openToRead path
    | .write => openToWrite path false false false (← hasOption 'C')
    | .force => openToWrite path false false false false
    | .append => openToWrite path true true false false
    | .both => openToWrite path true false true false

/-! ## Names -/

/-- The parts of a pattern between slashes. -/
def patternParts : List Char → List (List Char)
  | [] => [[]]
  | '\\' :: '/' :: pattern => [] :: patternParts pattern
  | '\\' :: c :: pattern =>
    match patternParts pattern with
    | [] => [['\\', c]]
    | part :: parts => ('\\' :: c :: part) :: parts
  | '/' :: pattern => [] :: patternParts pattern
  | c :: pattern =>
    match patternParts pattern with
    | [] => [[c]]
    | part :: parts => (c :: part) :: parts

/-- The names in a directory; the empty path is the current one. -/
def entries (state : State) (directory : List Char) : List (List Char) :=
  let path := if directory.isEmpty then ['.'] else directory
  match resolvePath state path with
  | .ok (location, .directory) =>
    ['.'] :: ['.', '.'] :: (state.world.tree.children location).map ofOctets
  | _ => []

/-- Whether a pattern lets names match that start with a dot. -/
def admitsDot : List Char → Bool
  | '.' :: _ => true
  | '\\' :: '.' :: _ => true
  | _ => false

/-- The paths that start with `start` and go on as the parts of a pattern say. -/
def pathsMatching (state : State) : (start : List Char) → (parts : List (List Char)) →
    List (List Char)
  | start, [] => if (observed? state start).isSome then [start] else []
  | start, part :: parts =>
    if hasWildcard part then
      let names := (entries state start).filter fun name =>
        (name.head? != some '.' || admitsDot part) && isMatch part name
      names.flatMap fun name =>
        if parts.isEmpty then [start ++ name]
        else pathsMatching state (start ++ name ++ ['/']) parts
    else
      pathsMatching state (start ++ unescaped part ++ (if parts.isEmpty then [] else ['/'])) parts

/-- Whether a text comes before another one, or is the same. -/
def isBeforeEqual : List Char → List Char → Bool
  | [], _ => true
  | _, [] => false
  | a :: as, b :: bs => a < b || (a == b && isBeforeEqual as bs)

/-- The paths that a pattern matches, in order. -/
def namesMatching (state : State) (pattern : List Char) : List (List Char) :=
  if hasWildcard pattern then
    (pathsMatching state [] (patternParts pattern)).mergeSort isBeforeEqual
  else []

end HostPreflight.Machine.Shell
