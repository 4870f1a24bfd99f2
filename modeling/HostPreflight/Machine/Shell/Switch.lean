import HostPreflight.Machine.Shell.State

/-!
# Switches

The switches of a built-in command: letters after a hyphen in front of its other
arguments, some of which take an argument of their own.

## Main definitions

* `Switch` — a switch that was given.
* `takesArgument?` — which switches there are.
* `nextSwitch`, `readSwitches` — take switches off the arguments.
-/

namespace HostPreflight.Machine.Shell

/-- A switch that was given, with its argument. -/
structure Switch where
  letter : Char
  argument : List Char := []

/-- What is left of the arguments while switches are read. -/
structure SwitchInput where
  /-- The letters that are left of the last argument. -/
  letters : List Char := []
  arguments : List (List Char)

/-- Whether a letter is one of some switches, and whether it takes an argument, which
a colon after the letter says. -/
def takesArgument? (switches : List Char) (letter : Char) : Option Bool :=
  match switches with
  | [] => none
  | [c] => if c == letter then some false else none
  | c :: ':' :: rest => if c == letter then some true else takesArgument? rest letter
  | c :: d :: rest => if c == letter then some false else takesArgument? (d :: rest) letter

/-- The letters of the next switches, and what comes after them. -/
def SwitchInput.start (input : SwitchInput) : Option (List Char × List (List Char)) :=
  match input.letters, input.arguments with
  | [], ('-' :: c :: letters) :: arguments => some (c :: letters, arguments)
  | [], _ => none
  | letters, arguments => some (letters, arguments)

/-- Takes the next switch. -/
def nextSwitch (switches : List Char) (input : SwitchInput) :
    Eval (Option Switch × SwitchInput) := do
  match input.start with
  | none => return (none, input)
  | some ([], arguments) => return (none, ⟨[], arguments⟩)
  | some (letter :: letters, arguments) =>
    if input.letters.isEmpty && letter == '-' && letters.isEmpty then return (none, ⟨[], arguments⟩)
    else
      match takesArgument? switches letter with
      | none => fail ("Illegal option -".toList ++ [letter])
      | some false => return (some ⟨letter, []⟩, ⟨letters, arguments⟩)
      | some true =>
        match letters, arguments with
        | [], [] => fail ("No arg for -".toList ++ letter :: " option".toList)
        | [], argument :: arguments => return (some ⟨letter, argument⟩, ⟨[], arguments⟩)
        | letters, arguments => return (some ⟨letter, letters⟩, ⟨[], arguments⟩)

/-- Takes all switches: those that were given, and the other arguments. -/
def switchesFrom (switches : List Char) : (fuel : Nat) → SwitchInput →
    Eval (List Switch × List (List Char))
  | 0, input => return ([], input.arguments)
  | fuel + 1, input => do
    match ← nextSwitch switches input with
    | (none, input) => return ([], input.arguments)
    | (some switch, input) =>
      let (others, arguments) ← switchesFrom switches fuel input
      return (switch :: others, arguments)

/-- Takes all switches: those that were given, and the other arguments. -/
def readSwitches (switches : String) (arguments : List (List Char)) :
    Eval (List Switch × List (List Char)) :=
  switchesFrom switches.toList (arguments.flatten.length + 1) { arguments }

end HostPreflight.Machine.Shell
