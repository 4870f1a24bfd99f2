import HostPreflight.Failure.Cause

/-!
# File trees

A tree of directories, files and links, and the rules by which a path leads
through it.  Names are octets; a location is the list of the names from the root.

## Main definitions

* `Node` — what stands at a location.
* `FileTree` — the nodes by location; `FileTree.put` adds one.
* `FileTree.resolve` — the location and the node that a path leads to.
* `FileTree.locate` — the location that a path names, where nothing need stand yet.
* `FileTree.observe` — the node that a path names, links not followed at its end.
* `FileTree.install` — puts a node where a path leads to, with the directories on the way.
-/

namespace HostPreflight.Machine

open Failure (Cause)

/-- A name in a directory. -/
abbrev Name := List UInt8

/-- The names from the root. -/
abbrev Location := List Name

/-- What stands at a location. -/
inductive Node where
  | directory
  | file (content : List UInt8) (executable : Bool)
  /-- A symbolic link with the path that it holds. -/
  | link (target : List UInt8)
  /-- The program that runs shell scripts. -/
  | shell
  /-- The device that has nothing to read and takes everything. -/
  | null
  deriving DecidableEq, Repr

/-- The nodes of a tree by their locations. -/
structure FileTree where
  entries : List (Location × Node)
  deriving DecidableEq, Repr

/-- A slash. -/
def slash : UInt8 := 0x2F

/-- The octets between slashes. -/
def splitPath : List UInt8 → List Name
  | [] => [[]]
  | octet :: octets =>
    if octet = slash then [] :: splitPath octets
    else
      match splitPath octets with
      | [] => [[octet]]
      | first :: others => (octet :: first) :: others

/-- The name of a directory in itself. -/
def selfName : Name := [0x2E]

/-- The name of the parent directory. -/
def parentName : Name := [0x2E, 0x2E]

/-- The longest name that a directory can hold. -/
def longestName : Nat := 255

/-- The first length at which a path is too long. -/
def pathLimit : Nat := 4096

/-- How many links a path may lead through. -/
def linkLimit : Nat := 40

namespace FileTree

/-- A tree with a root only. -/
def empty : FileTree := ⟨[]⟩

/-- The node at a location.  The root is always there. -/
def node? (tree : FileTree) (location : Location) : Option Node :=
  if location.isEmpty then some .directory else tree.entries.lookup location

/-- A tree with a directory at a location, if nothing is there yet. -/
def addDirectory (tree : FileTree) (location : Location) : FileTree :=
  if (tree.node? location).isSome then tree else ⟨tree.entries ++ [(location, .directory)]⟩

/-- A tree with directories at a location and on the way to it. -/
def addDirectories (tree : FileTree) (location : Location) : FileTree :=
  (List.range (location.length + 1)).foldl (fun tree n => tree.addDirectory (location.take n)) tree

/-- A tree with a node at a location and directories on the way to it; what stood
there before is replaced. -/
def put (tree : FileTree) (location : Location) (node : Node) : FileTree :=
  let tree := tree.addDirectories location.dropLast
  ⟨tree.entries.filter (·.1 != location) ++ [(location, node)]⟩

/-- The names in the directory at a location. -/
def children (tree : FileTree) (location : Location) : List Name :=
  tree.entries.filterMap fun (other, _) =>
    if other.dropLast = location then other.getLast? else none

/-- Follows the names `todo` from the directory at `here`.  Each link spends one
of `links`, and puts the names of its target in front.  Nothing need stand at the
end. -/
def walk (tree : FileTree) (links : Nat) (here : Location) :
    (todo : List Name) → Except Cause (Location × Option Node)
  | [] => .ok (here, some .directory)
  | name :: todo =>
    if name = [] ∨ name = selfName then walk tree links here todo
    else if name = parentName then walk tree links here.dropLast todo
    else if longestName < name.length then .error .nameTooLong
    else
      let there := here ++ [name]
      match tree.node? there with
      | none => if todo.isEmpty then .ok (there, none) else .error .noEntry
      | some .directory => walk tree links there todo
      | some (.link target) =>
        match links with
        | 0 => .error .tooManyLinks
        | links + 1 =>
          walk tree links (if target.head? = some slash then [] else here)
            (splitPath target ++ todo)
      | some node => if todo.isEmpty then .ok (there, some node) else .error .notDirectory
termination_by todo => (links, todo.length)

/-- The location that a path names from the directory at `here`, and the node that
stands there, if there is one. -/
def locate (tree : FileTree) (here : Location) (path : List UInt8) :
    Except Cause (Location × Option Node) :=
  if path.isEmpty then .error .noEntry
  else if pathLimit ≤ path.length then .error .nameTooLong
  else tree.walk linkLimit (if path.head? = some slash then [] else here) (splitPath path)

/-- The location and the node that a path leads to from the directory at `here`. -/
def resolve (tree : FileTree) (here : Location) (path : List UInt8) :
    Except Cause (Location × Node) := do
  match ← tree.locate here path with
  | (location, some node) => .ok (location, node)
  | (_, none) => .error .noEntry

/-- The node that a path names from the directory at `here`; a link at its end is
not followed. -/
def observe (tree : FileTree) (here : Location) (path : List UInt8) : Option Node :=
  let parent := ((path.reverse.dropWhile (· != slash)).reverse)
  let name := (path.reverse.takeWhile (· != slash)).reverse
  let followed := (tree.resolve here path).toOption.map (·.2)
  if name.isEmpty || name = selfName || name = parentName then followed
  else
    match tree.resolve here (parent ++ selfName) with
    | .ok (location, .directory) =>
      match tree.node? (location ++ [name]) with
      | some (.link target) => some (.link target)
      | _ => followed
    | _ => none

/-- Enters a directory, which is made if it is not there. -/
def enter (tree : FileTree) (here : Location) (name : Name) : FileTree × Location :=
  match tree.resolve here name with
  | .ok (location, .directory) => (tree, location)
  | _ => (tree.addDirectory (here ++ [name]), here ++ [name])

/-- Enters directories one after the other, which are made if they are not there. -/
def enterAll (tree : FileTree) (here : Location) (names : List Name) : FileTree × Location :=
  names.foldl (fun (tree, here) name => tree.enter here name) (tree, here)

/-- Puts a node where names lead to from the directory at `here`, with the
directories on the way.  Only a link does not go through a link at the end. -/
def install (tree : FileTree) (here : Location) (names : List Name) (node : Node) : FileTree :=
  let (tree, parent) := tree.enterAll here names.dropLast
  match names.getLast?, node with
  | none, _ => tree
  | some name, .link target => tree.put (parent ++ [name]) (.link target)
  | some name, node =>
    match tree.locate parent name with
    | .ok (location, _) => tree.put location node
    | .error _ => tree

end FileTree

end HostPreflight.Machine
