import HostPreflight.Machine.Shell.Option
import HostPreflight.Machine.Shell.Path
import HostPreflight.Machine.Shell.Switch

/-!
# Variables and arguments

The built-in commands that change the variables and the arguments of a script.

## Main definitions

* `listVariables` — the variables of a kind, in order.
* `performDeclare`, `performLocalize`, `performUnset` — commands about variables.
* `performSet`, `performShift` — commands about arguments and options.
* `performGetOptions`, `performRead` — commands that set variables from arguments and
  from input.
-/

namespace HostPreflight.Machine.Shell

/-! ## Listing -/

/-- A line for each variable of a kind in order, each with a text in front. -/
def listVariables (p : Process) (start : List Char) (kind : Variable → Bool) : List Char :=
  let chosen := (p.bindings.filter fun entry => kind entry.2).mergeSort fun a b =>
    isBeforeEqual a.1 b.1
  chosen.flatMap fun (name, v) =>
    start ++ name ++ (match v.value with
      | some value => '=' :: singleQuoted value
      | none => []) ++ ['\n']

/-! ## Declarations -/

/-- The name and the value that an argument gives to a variable. -/
def nameAndValue (argument : List Char) : List Char × Option (List Char) :=
  match argument.span (· != '=') with
  | (name, _ :: value) => (name, some value)
  | (name, []) => (name, none)

/-- Marks variables, to be exported or never to be changed again, and sets those that
are given a value; without names it lists them. -/
def performDeclare (command : List Char) (isMarked : Variable → Bool)
    (mark : Variable → Variable) (arguments : List (List Char)) : Eval Ending := do
  let (switch, input) ← nextSwitch ['p'] { arguments }
  if switch.isSome || input.arguments.isEmpty then
    answer (listVariables (← process) (command ++ [' ']) isMarked)
  else
    for argument in input.arguments do
      let (name, value) := nameAndValue argument
      match value with
      | some value => setNamed name value
      | none => needName name
      modifyProcess fun p => p.putVariable name (mark ((p.find? name).getD { value := none }))
    done

/-- Makes variables local to the function; a hyphen stands for the options. -/
def performLocalize (arguments : List (List Char)) : Eval Ending := do
  if (← process).frames.isEmpty then fail "not in a function".toList
  else
    for argument in arguments do
      if argument = ['-'] then setAside fun p => .options p.options
      else
        let (name, value) := nameAndValue argument
        if value.isSome then needName name
        localize name value false
    done

/-- Takes variables or functions away. -/
def performUnset (arguments : List (List Char)) : Eval Ending := do
  let (switches, names) ← readSwitches "vf" arguments
  let functions := (switches.getLast?.map fun switch => switch.letter == 'f').getD false
  for name in names do
    if functions then
      modifyProcess fun p => { p with functions := p.functions.filter (·.1 != name) }
    else unsetVariable name
  done

/-! ## Arguments -/

/-- Sets the arguments of the script. -/
def setArguments (arguments : List (List Char)) : Eval Unit :=
  modifyProcess fun p => { p with arguments, nextOption := 1, withinOption := none }

/-- Sets options and arguments; without any it lists all variables. -/
def performSet (arguments : List (List Char)) : Eval Ending := do
  if arguments.isEmpty then answer (listVariables (← process) [] fun v => v.value.isSome)
  else
    let input ← readOptions { arguments }
    if input.isClosed || !input.arguments.isEmpty then setArguments input.arguments
    answer input.output

/-- Takes the first arguments away. -/
def performShift (arguments : List (List Char)) : Eval Ending := do
  let count ← match arguments with
    | [] => pure 1
    | count :: _ => needCount count
  let given := (← process).arguments
  if given.length < count then fail "can't shift that many".toList
  else
    setArguments (given.drop count)
    done

/-! ## Options of the script -/

/-- What has been found among the arguments. -/
structure OptionFound where
  letter : Char := '?'
  argument : Option (List Char) := none
  complaint : List Char := []
  /-- The number of the next argument to be looked at. -/
  next : Nat
  /-- How much of the argument before it has been read, if it has not been left. -/
  within : Option Nat := none
  isEnd : Bool := false

/-- The letters that are left to be read, and the number of the next argument. -/
def optionLettersAt (p : Process) (arguments : List (List Char)) :
    Option (List Char) × Nat :=
  let next := if arguments.length + 1 < p.nextOption then 1 else p.nextOption
  let left := if p.nextOption = next then p.withinOption else none
  let letters := if next ≤ 1 then [] else
    match left, arguments[next - 2]? with
    | some offset, some argument => argument.drop offset
    | _, _ => []
  if !letters.isEmpty then (some letters, next)
  else
    match arguments[next - 1]? with
    | some ['-', '-'] => (none, next + 1)
    | some ('-' :: c :: letters) => (some (c :: letters), next + 1)
    | _ => (none, next)

/-- Finds the next option among some arguments. -/
def findOption (p : Process) (known : List Char) (arguments : List (List Char)) : OptionFound :=
  let quiet := known.head? = some ':'
  match optionLettersAt p arguments with
  | (some (letter :: letters), next) =>
    let within := (arguments[next - 2]?.map List.length).map (· - letters.length)
    let bad (c : Char) (complaint : List Char) : OptionFound :=
      if quiet then { letter := c, argument := some [letter], next, within }
      else { complaint, next, within }
    match takesArgument? known letter with
    | none => bad '?' ("Illegal option -".toList ++ [letter, '\n'])
    | some false => { letter, argument := some [], next, within }
    | some true =>
      if !letters.isEmpty then { letter, argument := some letters, next }
      else
        match arguments[next - 1]? with
        | some argument => { letter, argument := some argument, next := next + 1 }
        | none => bad ':' ("No arg for -".toList ++ letter :: " option\n".toList)
  | (_, next) => { next, isEnd := true }

/-- Sets a variable to the next option of the script or of the given arguments. -/
def performGetOptions (arguments : List (List Char)) : Eval Ending := do
  let (_, arguments) ← readSwitches "" arguments
  match arguments with
  | known :: name :: given =>
    let p ← process
    let found := findOption p known (if given.isEmpty then p.arguments else given)
    if !found.isEnd then
      match found.argument with
      | some argument => setVariable "OPTARG".toList argument
      | none =>
        writeError found.complaint
        unsetVariable "OPTARG".toList
    setVariable "OPTIND".toList (decimal found.next)
    modifyProcess fun p => { p with nextOption := 1, withinOption := none }
    setNamed name [found.letter]
    modifyProcess fun p => { p with nextOption := found.next, withinOption := found.within }
    return ([], if found.isEnd then 1 else 0)
  | _ => fail "Usage: getopts optstring var [arg...]".toList

/-! ## Input -/

/-- Takes a line off a text: its characters, of which an escaped one does not
separate fields; how many characters were taken; and whether a line feed ended it. -/
def takeLine (raw : Bool) : (taken : Nat) → List Char → Marks × Nat × Bool
  | taken, [] => ([], taken, false)
  | taken, ['\\'] => (if raw then [.char '\\' false true] else [], taken + 1, false)
  | taken, '\\' :: c :: rest =>
    if raw then
      if c == '\n' then ([.char '\\' false true], taken + 2, true)
      else
        let (line, taken, ended) := takeLine raw (taken + 1) (c :: rest)
        (.char '\\' false true :: line, taken, ended)
    else
      let (line, taken, ended) := takeLine raw (taken + 2) rest
      if c == '\n' then (line, taken, ended)
      else (.char c false false :: line, taken, ended)
  | taken, c :: rest =>
    if c == '\n' then ([], taken + 1, true)
    else
      let (line, taken, ended) := takeLine raw (taken + 1) rest
      if c == '\x00' then (line, taken, ended) else (.char c false true :: line, taken, ended)

/-- Reads a line and shares it out among variables. -/
def performRead (arguments : List (List Char)) : Eval Ending := do
  let (switches, names) ← readSwitches "p:r" arguments
  if names.isEmpty then fail "arg count".toList
  else
    let raw := switches.any (·.letter == 'r')
    let number ← streamNumber 0
    let world := (← get).world
    let (line, taken, ended) := takeLine raw 0 ((number.bind world.unread).getD [])
    match number with
    | some number => modifyWorld fun world => world.advance number taken
    | none => pure ()
    let separators := (← process).separators
    for (name, value) in distribute separators names line do
      setNamed name value
    return ([], if ended then 0 else 1)

end HostPreflight.Machine.Shell
