import HostPreflight.Machine.Shell.Lookup

/-!
# The current directory

A shell knows its directory by the path that led there, in which links are not
followed, and by the location at which it really is.

## Main definitions

* `logicalPath` — the path of a directory seen from another one.
* `enterDirectory` — goes to a directory.
* `performChange`, `performPrint` — built-in commands.
-/

namespace HostPreflight.Machine.Shell

/-- The parts of a path between slashes. -/
def pathParts (path : List Char) : List (List Char) :=
  let parts := path.foldr (fun c parts =>
    match c, parts with
    | '/', parts => [] :: parts
    | c, [] => [[c]]
    | c, part :: parts => (c :: part) :: parts) [[]]
  parts.filter (!·.isEmpty)

/-- The slashes at the start of a path: two of them mean something of their own, any
other number the same as one. -/
def rootOf (path : List Char) : List Char :=
  match path.takeWhile (· == '/') with
  | ['/', '/'] => ['/', '/']
  | _ => ['/']

/-- The parts of a path in which those for a directory itself and its parent are
carried out. -/
def withoutDots (parts : List (List Char)) : List (List Char) :=
  (parts.foldl (fun before part =>
    if part = ['.'] then before
    else if part = ['.', '.'] then before.drop 1
    else part :: before) []).reverse

/-- The path of a directory seen from another one. -/
def logicalPath (directory path : List Char) : List Char :=
  if path.head? = some '/' then rootOf path ++ ['/'].intercalate (withoutDots (pathParts path))
  else
    rootOf directory ++ ['/'].intercalate (withoutDots (pathParts directory ++ pathParts path))

/-- The path of a location. -/
def locationPath (location : Location) : List Char :=
  '/' :: ['/'].intercalate (location.map ofOctets)

/-- Goes to a directory; false if there is none. -/
def enterDirectory (physical : Bool) (path : List Char) : Eval Bool := do
  let p ← process
  let path := if physical then path else logicalPath p.directory path
  match resolvePath (← get) path with
  | .ok (here, .directory) =>
    let directory := if physical then locationPath here else path
    modifyProcess fun p => { p with here, directory }
    assignVariable "OLDPWD".toList p.directory true
    assignVariable "PWD".toList directory true
    return true
  | _ => return false

/-- Whether the switches ask for the real location. -/
def asksPhysical (switches : List Switch) : Bool :=
  (switches.getLast?.map fun switch => switch.letter == 'P').getD false

/-- Whether a path starts at the root, or at the directory itself or its parent. -/
def isAnchored (path : List Char) : Bool :=
  match path with
  | '/' :: _ => true
  | ['.'] | '.' :: '/' :: _ => true
  | ['.', '.'] | '.' :: '.' :: '/' :: _ => true
  | _ => false

/-- The first path in some directories at which there is a directory, and whether it
was found through a directory that has a name. -/
def searchDirectory? (state : State) (directories path : List Char) : Option (List Char × Bool) :=
  (colonParts directories).findSome? fun directory =>
    let there := inDirectory directory path
    if node? state there = some .directory then some (there, !directory.isEmpty) else none

/-- Changes the directory. -/
def performChange (arguments : List (List Char)) : Eval Ending := do
  let (switches, arguments) ← readSwitches "LP" arguments
  let state ← get
  let p := state.process
  let (target, shown) := match arguments.head? with
    | none => ((p.value? "HOME".toList).getD [], false)
    | some ['-'] => ((p.value? "OLDPWD".toList).getD [], true)
    | some path => (path, false)
  let searched :=
    if isAnchored target then none
    else
      (p.value? "CDPATH".toList).bind fun directories =>
        searchDirectory? state directories (if target.isEmpty then ['.'] else target)
  let (path, shown) := match searched with
    | some (path, named) => (path, shown || named)
    | none => (if target.isEmpty then ['.'] else target, shown)
  if ← enterDirectory (asksPhysical switches) path then
    if shown then answer ((← process).directory ++ ['\n']) else done
  else fail ("can't cd to ".toList ++ target)

/-- Tells the directory. -/
def performPrint (arguments : List (List Char)) : Eval Ending := do
  let (switches, _) ← readSwitches "LP" arguments
  let p ← process
  answer ((if asksPhysical switches then locationPath p.here else p.directory) ++ ['\n'])

end HostPreflight.Machine.Shell
