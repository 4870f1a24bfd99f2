import HostPreflight.Machine.Shell.State

/-!
# Options of the shell

Options say how a shell carries out a script.  Most are known by a letter, all by
a name.

## Main definitions

* `optionNames` — the names and the letters.
* `setOption`, `setNamedOption` — turn an option on or off.
* `listOptions`, `listSettings` — what is said about all options.
-/

namespace HostPreflight.Machine.Shell

/-- The names of the options and their letters.  The last two have none and are kept
under signs that no one can spell. -/
def optionNames : List (String × Char) :=
  [("errexit", 'e'), ("noglob", 'f'), ("ignoreeof", 'I'), ("interactive", 'i'), ("monitor", 'm'),
    ("noexec", 'n'), ("stdin", 's'), ("xtrace", 'x'), ("verbose", 'v'), ("vi", 'V'), ("emacs", 'E'),
    ("noclobber", 'C'), ("allexport", 'a'), ("notify", 'b'), ("nounset", 'u'), ("privileged", 'p'),
    ("nolog", '\x00'), ("debug", '\x01')]

/-- The letters of the options that are on after one is turned on or off. -/
def switchOption (letters : List Char) (letter : Char) (on : Bool) : List Char :=
  let others := letters.filter (· != letter)
  if on then letter :: others else others

/-- What is said of an option that needs a terminal. -/
def noTerminal : List Char := "can't access tty; job control turned off".toList

/-- Turns an option on or off that is known by its letter.  The two ways to edit a
line exclude one another. -/
def setOption (letter : Char) (on : Bool) : Eval Unit := do
  if letter.toNat < 2 || !(optionNames.any (·.2 == letter)) then
    fail ("Illegal option -".toList ++ [letter])
  else if on && letter == 'm' then
    warn noTerminal
  else
    modifyProcess fun p =>
      let options := switchOption p.options letter on
      let options :=
        if on && letter == 'V' then switchOption options 'E' false
        else if on && letter == 'E' then switchOption options 'V' false
        else options
      { p with options }

/-- Turns an option on or off that is known by its name. -/
def setNamedOption (name : List Char) (on : Bool) : Eval Unit := do
  match optionNames.lookup (String.ofList name) with
  | some letter =>
    if on && letter == 'm' then warn noTerminal
    else modifyProcess fun p => { p with options := switchOption p.options letter on }
  | none => fail ("Illegal option -o ".toList ++ name)

/-- A line for each option that says whether it is on. -/
def listOptions (p : Process) : List Char :=
  "Current option settings\n".toList ++ optionNames.flatMap fun (name, letter) =>
    name.toList ++ List.replicate (16 - name.length) ' '
      ++ (if p.options.contains letter then "on\n" else "off\n").toList

/-- The commands that restore all options. -/
def listSettings (p : Process) : List Char :=
  optionNames.flatMap fun (name, letter) =>
    (if p.options.contains letter then "set -o " else "set +o ").toList ++ name.toList ++ ['\n']

/-- What is left of the arguments while options are read. -/
structure OptionInput where
  /-- What has been said about all options. -/
  output : List Char := []
  arguments : List (List Char)
  /-- Whether the options belong to the start of a shell. -/
  atStart : Bool := false
  /-- Whether the first argument is a script itself. -/
  isInline : Bool := false
  /-- Whether two hyphens have ended the options. -/
  isClosed : Bool := false

/-- Carries out the letters of one argument that starts with a sign. -/
def setLetters (on : Bool) : (letters : List Char) → OptionInput → Eval OptionInput
  | [], input => return input
  | letter :: letters, input => do
    if letter == 'c' && input.atStart then setLetters on letters { input with isInline := true }
    else if letter == 'l' && input.atStart then setLetters on letters input
    else if letter == 'o' then
      match input.arguments with
      | [] =>
        let p ← process
        let text := if on then listOptions p else listSettings p
        setLetters on letters { input with output := input.output ++ text }
      | name :: arguments =>
        setNamedOption name on
        setLetters on letters { input with arguments }
    else
      tryCatch (setOption letter on) fun abort => do
        let _ ← write 1 input.output
        throw abort
      setLetters on letters input

/-- Carries out the options in front of some arguments. -/
def setOptions : (fuel : Nat) → OptionInput → Eval OptionInput
  | 0, input => return input
  | fuel + 1, input => do
    match input.arguments with
    | ['-'] :: arguments =>
      if !input.atStart then
        modifyProcess fun p => { p with options := p.options.filter fun c => c != 'x' && c != 'v' }
      return { input with arguments }
    | ['-', '-'] :: arguments => return { input with arguments, isClosed := true }
    | ('-' :: letters) :: arguments =>
      setOptions fuel (← setLetters true letters { input with arguments })
    | ('+' :: letters) :: arguments =>
      setOptions fuel (← setLetters false letters { input with arguments })
    | _ => return input

/-- Carries out the options in front of some arguments. -/
def readOptions (input : OptionInput) : Eval OptionInput :=
  setOptions (input.arguments.length + 1) input

end HostPreflight.Machine.Shell
