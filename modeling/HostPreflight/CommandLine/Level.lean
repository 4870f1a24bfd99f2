/-!
# Levels of a command line

A command line is read in levels: the options of the program itself, then a
command with options of its own.  A level has rules for its options and the
names of the commands that may follow.  Reading a level yields the options that
were mentioned, in order.

An option that takes a value is only recorded when the next argument shows where
its value ends, so its value may still be pending while the next argument is
looked at.  An unknown argument is therefore refused before the value in front of
it is.

## Main definitions

* `Refusal` — why a command line is not carried out.
* `OptionRule`, `Level` — the options of a level.
* `Progress` — the options mentioned so far and the value that is pending.
* `Level.read` — reads arguments up to a command.
-/

namespace HostPreflight.CommandLine

/-- Why a command line is not carried out.  The last two are no errors: the user
has asked for a text. -/
inductive Refusal where
  /-- A value is malformed, empty or missing. -/
  | invalidValue
  /-- Options exclude each other, or one is repeated. -/
  | argumentConflict
  /-- An argument is not known. -/
  | unknownArgument
  /-- An option without value is given one. -/
  | tooManyValues
  /-- A word is not the name of a command. -/
  | invalidSubcommand
  | displayHelp
  | displayVersion
  deriving DecidableEq, Repr

/-- The exit code of a process whose command line is not carried out. -/
def Refusal.exitCode : Refusal → UInt8
  | .displayHelp => 0
  | .displayVersion => 0
  | _ => 2

/-- What an option does. -/
inductive Meaning where
  /-- Takes a value that satisfies a condition. -/
  | value (accepts : String → Bool)
  /-- Is given at most once. -/
  | flag
  /-- May be repeated. -/
  | count
  /-- Asks for a text and ends the reading. -/
  | stop (refusal : Refusal)

/-- The rule of an option. -/
structure OptionRule where
  /-- The name after two dashes. -/
  name : String
  /-- The letter after one dash, if there is one. -/
  letter : Option Char
  meaning : Meaning

namespace OptionRule

/-- Whether an option takes a value. -/
def takesValue (rule : OptionRule) : Bool :=
  match rule.meaning with
  | .value _ => true
  | _ => false

/-- Whether an option may be repeated. -/
def isRepeatable (rule : OptionRule) : Bool :=
  match rule.meaning with
  | .count => true
  | _ => false

/-- Whether an option accepts a value. -/
def accepts (rule : OptionRule) (value : String) : Bool :=
  match rule.meaning with
  | .value accepts => accepts value
  | _ => true

end OptionRule

/-- The options of a level. -/
structure Level where
  options : List OptionRule
  /-- The commands that may follow. -/
  commands : List String
  /-- How a word is refused that is neither a value nor a command. -/
  stray : Refusal

namespace Level

/-- The rule of an option by its name. -/
def byName? (level : Level) (name : String) : Option OptionRule :=
  level.options.find? fun rule => rule.name == name

/-- The rule of an option by its letter. -/
def byLetter? (level : Level) (letter : Char) : Option OptionRule :=
  level.options.find? fun rule => rule.letter == some letter

end Level

/-! ## Recording options -/

/-- An option that was mentioned, with its value if it takes one. -/
structure Mention where
  name : String
  value : Option String
  deriving DecidableEq, Repr

/-- Whether an option was mentioned. -/
def isMentioned (mentions : List Mention) (name : String) : Bool :=
  mentions.any fun mention => mention.name == name

/-- How often an option was mentioned. -/
def timesMentioned (mentions : List Mention) (name : String) : Nat :=
  mentions.countP fun mention => mention.name == name

/-- The value with which an option was mentioned. -/
def valueOf? (mentions : List Mention) (name : String) : Option String :=
  mentions.findSome? fun mention => if mention.name == name then mention.value else none

/-- An option that waits for its value, or whose value has not been looked at. -/
inductive Pending where
  | nothing
  | awaiting (rule : OptionRule)
  | holding (rule : OptionRule) (value : String)

/-- The options mentioned so far and the value that is pending. -/
structure Progress where
  mentions : List Mention
  pending : Pending

namespace Progress

/-- Nothing has been read. -/
def start : Progress := ⟨[], .nothing⟩

/-- Whether the next word is the value of an option. -/
def isAwaiting (progress : Progress) : Bool :=
  match progress.pending with
  | .awaiting _ => true
  | _ => false

/-- Records an option without value. -/
def record (mentions : List Mention) (rule : OptionRule) : Except Refusal (List Mention) :=
  if !rule.isRepeatable && isMentioned mentions rule.name then .error .argumentConflict
  else .ok (mentions ++ [⟨rule.name, none⟩])

/-- Records an option with its value. -/
def recordValue (mentions : List Mention) (rule : OptionRule) (value : String) :
    Except Refusal (List Mention) :=
  if isMentioned mentions rule.name then .error .argumentConflict
  else if !rule.accepts value then .error .invalidValue
  else .ok (mentions ++ [⟨rule.name, some value⟩])

/-- Records the option that is pending. -/
def settle (progress : Progress) : Except Refusal (List Mention) :=
  match progress.pending with
  | .nothing => .ok progress.mentions
  | .awaiting _ => .error .invalidValue
  | .holding rule value => recordValue progress.mentions rule value

end Progress

/-! ## Reading arguments -/

namespace Level

/-- Mentions an option without value, after what is pending. -/
def mention (progress : Progress) (rule : OptionRule) : Except Refusal Progress := do
  let mentions ← progress.settle
  match rule.meaning with
  | .stop refusal => .error refusal
  | .value _ => .ok ⟨mentions, .awaiting rule⟩
  | _ => .ok ⟨← Progress.record mentions rule, .nothing⟩

/-- Reads an option after its two dashes: a name, and a value after an equals sign. -/
def readLong (level : Level) (progress : Progress) (text : List Char) :
    Except Refusal Progress :=
  let (name, rest) := text.span (· != '=')
  match level.byName? (String.ofList name), rest with
  | none, _ => .error .unknownArgument
  | some rule, [] => mention progress rule
  | some rule, _ :: value => do
    if rule.takesValue then
      let mentions ← progress.settle
      .ok ⟨← Progress.recordValue mentions rule (String.ofList value), .nothing⟩
    else .error .tooManyValues

/-- Reads letters after one dash. -/
def readLetters (level : Level) (progress : Progress) : List Char → Except Refusal Progress
  | [] => .ok progress
  | letter :: letters => do
    match level.byLetter? letter with
    | none => .error .unknownArgument
    | some rule => readLetters level (← mention progress rule) letters

/-- Reads a word: the value that is awaited, or a stray word. -/
def readWord (level : Level) (progress : Progress) (word : String) : Except Refusal Progress :=
  match progress.pending with
  | .awaiting rule => .ok { progress with pending := .holding rule word }
  | _ => .error level.stray

/-- How a word is refused after two dashes on their own. -/
def refuseAfterDashes (level : Level) (word : String) : Refusal :=
  if level.commands.contains word then .unknownArgument else level.stray

/-- Reads one argument. -/
def readArgument (level : Level) (progress : Progress) (argument : String) :
    Except Refusal Progress :=
  match argument.toList with
  | '-' :: '-' :: text => level.readLong progress text
  | '-' :: letter :: letters => level.readLetters progress (letter :: letters)
  | _ => level.readWord progress argument

/-- Reads arguments up to a command: what was read, and the command with the
arguments after it. -/
def read (level : Level) (progress : Progress) :
    List String → Except Refusal (Progress × Option (String × List String))
  | [] => .ok (progress, none)
  | argument :: rest =>
    if !progress.isAwaiting && level.commands.contains argument then
      .ok (progress, some (argument, rest))
    else if argument = "--" then
      match rest with
      | [] => .ok (progress, none)
      | word :: _ => .error (level.refuseAfterDashes word)
    else do
      level.read (← level.readArgument progress argument) rest

/-- Reads all arguments of a level without commands. -/
def readAll (level : Level) (arguments : List String) : Except Refusal (List Mention) := do
  let (progress, _) ← level.read .start arguments
  progress.settle

end Level

end HostPreflight.CommandLine
