import HostPreflight.Machine.FileTree

/-!
# Loading programs

A program is either the shell or a script, and a script names on its first line the
interpreter that runs it, which may be a script again.  In the end it is always the
shell that runs.

## Main definitions

* `interpreter?` — the interpreter that a script names, and its argument.
* `FileTree.load` — the arguments with which the shell runs for a program.
-/

namespace HostPreflight.Machine

open Failure (Cause)

/-- A blank in the first line of a script. -/
def isGap (octet : UInt8) : Bool := octet == 0x20 || octet == 0x09

/-- The octets without blanks at their end. -/
def dropGaps (octets : List UInt8) : List UInt8 := (octets.reverse.dropWhile isGap).reverse

/-- How much of a script is looked at; zeros stand for what it does not have. -/
def headSize : Nat := 256

/-- The first line of a script after its mark.  A line of which the end is not seen must
show at least the end of a name. -/
def firstLine? (content : List UInt8) : Option (List UInt8) :=
  match (content ++ List.replicate headSize 0).take headSize with
  | 0x23 :: 0x21 :: head =>
    if head.contains 0x0A then some (head.takeWhile (· != 0x0A))
    else if (head.dropWhile isGap).any fun octet => isGap octet || octet == 0 then
      some head.dropLast
    else none
  | _ => none

/-- The interpreter that a script names on its first line, and its argument, which both
end at a zero. -/
def interpreter? (content : List UInt8) : Option (List UInt8 × Option (List UInt8)) := do
  let line := (dropGaps (← firstLine? content)).dropWhile isGap
  if line.isEmpty then none
  else
    let (name, rest) := line.span fun octet => !isGap octet && octet != 0
    let argument := (rest.dropWhile isGap).takeWhile (· != 0)
    return (name, if (rest.head?.map isGap).getD false then some argument else none)

/-- How many scripts may name each other as interpreters. -/
def scriptLimit : Nat := 5

/-- The name and the arguments with which the shell runs for the program at a path.
The name is that of the program if it is the shell itself. -/
def FileTree.loadFrom (tree : FileTree) (here : Location) : (fuel : Nat) →
    (path name : List UInt8) → (arguments : List (List UInt8)) →
    Except Cause (List UInt8 × List (List UInt8))
  | fuel, path, name, arguments => do
    match ← tree.resolve here path with
    | (_, .shell) => .ok (name, arguments)
    | (_, .file content true) =>
      match interpreter? content, fuel with
      | none, _ => .error .execFormat
      | some _, 0 => .error .tooManyLinks
      | some ([], _), _ => .error .accessDenied
      | some (interpreter, argument), fuel + 1 =>
        tree.loadFrom here fuel interpreter interpreter (argument.toList ++ path :: arguments)
    | _ => .error .accessDenied

/-- The name and the arguments with which the shell runs for the program at a path. -/
def FileTree.load (tree : FileTree) (here : Location) (path name : List UInt8)
    (arguments : List (List UInt8)) : Except Cause (List UInt8 × List (List UInt8)) :=
  tree.loadFrom here scriptLimit path name arguments

end HostPreflight.Machine
