import HostPreflight.Machine.Shell.Command

/-!
# Tokens of the shell

What a script is cut into, and the state of cutting it.  A script is read as it is
run, one command at a time, so that the commands before a mistake are run and an
alias holds from the next command on.

## Main definitions

* `Token` — the tokens; `Token.title` — what complaints call them.
* `Input` — what is left of a script.
* `Complaint` — what is wrong with a script, and in which line.
* `Parse` — computations that take a script apart.
-/

namespace HostPreflight.Machine.Shell

/-- A token of a script. -/
inductive Token where
  | endOfFile
  | newline
  | operator (text : String)
  /-- The start of a redirection, before its word. -/
  | redirection (descriptor : Nat) (sign : String)
  | word
  /-- A word that has a meaning of its own where a command may start. -/
  | reserved (text : String)
  deriving DecidableEq, Repr

/-- The words that have a meaning of their own where a command may start. -/
def reservedWords : List String :=
  ["!", "case", "do", "done", "elif", "else", "esac", "fi", "for", "if", "in", "then", "until",
    "while", "\x7b", "\x7d"]

namespace Token

/-- What complaints call a token. -/
def title : Token → List Char
  | .endOfFile => "end of file".toList
  | .newline => "newline".toList
  | .operator text => '"' :: text.toList ++ ['"']
  | .redirection .. => "redirection".toList
  | .word => "word".toList
  | .reserved text => '"' :: text.toList ++ ['"']

/-- The operators and reserved words that close a list of commands. -/
def closers : List Token :=
  [.endOfFile, .operator ")", .operator ";;", .reserved "do", .reserved "done", .reserved "elif",
    .reserved "else", .reserved "esac", .reserved "fi", .reserved "then", .reserved "\x7d"]

/-- Whether a token closes a list of commands. -/
def isCloser (token : Token) : Bool := closers.contains token

end Token

/-- What is wrong with a script, and in which line. -/
structure Complaint where
  line : Nat
  text : List Char

/-- What is looked for when a token is read. -/
structure Expected where
  /-- Line feeds before the token are left out. -/
  afterLines : Bool := false
  /-- Reserved words are told from other words. -/
  reserved : Bool := false
  /-- Aliases are replaced. -/
  aliases : Bool := false
  /-- The word is the delimiter of a text in the script. -/
  delimiter : Bool := false

namespace Expected

/-- All that either of two looks for. -/
def or (a b : Expected) : Expected :=
  ⟨a.afterLines || b.afterLines, a.reserved || b.reserved, a.aliases || b.aliases,
    a.delimiter || b.delimiter⟩

/-- A word in the middle of a command. -/
def nothing : Expected := {}

/-- The start of a command, after line feeds. -/
def command : Expected := { afterLines := true, reserved := true, aliases := true }

/-- The start of a command in the same line. -/
def here : Expected := { reserved := true, aliases := true }

end Expected

/-- A text in the script that has been announced. -/
structure Announcement where
  number : Nat
  delimiter : List Char
  /-- Whether tabs at the starts of its lines are left out. -/
  stripped : Bool
  /-- Whether it is taken as it is. -/
  exact : Bool

/-- What is left of a script, and what has been seen of it. -/
structure Input where
  rest : List Char
  /-- The aliases that are being replaced, each with the text after it. -/
  replaced : List (List Char × List Char) := []
  /-- The number of the line. -/
  line : Nat
  aliases : List (List Char × List Char) := []
  expected : Expected := {}
  /-- The last token. -/
  token : Token := .newline
  /-- Whether the last token is to be read again. -/
  again : Bool := false
  /-- The last word. -/
  word : Word := []
  announced : List Announcement := []
  /-- The text in the script that is being read. -/
  within : Option Announcement := none
  /-- The number of the next text. -/
  nextDocument : Nat
  /-- The texts read, by their numbers. -/
  documents : List (Nat × Word) := []

/-- Computations that take a script apart. -/
abbrev Parse := StateT Input (Except Complaint)

/-- Complains about the line that is being read. -/
def complain {α : Type} (text : List Char) : Parse α := do
  throw ⟨(← get).line, "Syntax error: ".toList ++ text⟩

/-- Complains about the last token. -/
def unexpected {α : Type} : Parse α := do
  complain ((← get).token.title ++ " unexpected".toList)

/-- Complains about the last token where another one is needed. -/
def unexpectedFor {α : Type} (wanted : Token) : Parse α := do
  complain ((← get).token.title ++ " unexpected (expecting ".toList ++ wanted.title ++ [')'])

/-- The texts in the script are nested too deeply. -/
def exhausted {α : Type} : Parse α := complain "too deeply nested".toList

/-! ## Characters -/

/-- Leaves the alias whose text is used up, and lets the next word be an alias too
if the text ends in a blank. -/
def Input.leaveAlias (input : Input) : Option Input :=
  match input.replaced with
  | [] => none
  | (name, rest) :: replaced =>
    let value := (input.aliases.lookup name).getD []
    let goesOn := match value.getLast? with
      | some c => c == ' ' || c == '\t'
      | none => false
    some { input with
      rest
      replaced
      expected := { input.expected with aliases := input.expected.aliases || goesOn } }

/-- Takes one character, none at the end. -/
def takeFrom : (fuel : Nat) → Input → Option Char × Input
  | 0, input => (none, input)
  | fuel + 1, input =>
    match input.rest with
    | c :: rest =>
      (some c, { input with rest, line := if c == '\n' then input.line + 1 else input.line })
    | [] =>
      match input.leaveAlias with
      | some input => takeFrom fuel input
      | none => (none, input)

/-- Takes one character, none at the end. -/
def Input.take (input : Input) : Option Char × Input := takeFrom (input.replaced.length + 1) input

/-- The text after joined lines, and the number of lines that were joined. -/
def joinLines : (lines : Nat) → List Char → Nat × List Char
  | lines, '\\' :: '\n' :: rest => joinLines (lines + 1) rest
  | lines, rest => (lines, rest)

/-- Leaves out backslashes at the ends of lines. -/
def Input.joined (input : Input) : Input :=
  let (lines, rest) := joinLines 0 input.rest
  { input with rest, line := input.line + lines }

/-- Takes one character. -/
def getChar : Parse (Option Char) := do
  let (c, input) := (← get).take
  set input
  return c

/-- Takes one character after joining lines. -/
def getJoined : Parse (Option Char) := do
  let (c, input) := (← get).joined.take
  set input
  return c

/-- The next character after joining lines, which is not taken. -/
def peekJoined : Parse (Option Char) := do
  let input := (← get).joined
  set input
  return input.take.1

/-- Takes one character if it is the given one, after joining lines. -/
def accept (c : Char) : Parse Bool := do
  if (← peekJoined) == some c then
    let _ ← getJoined
    return true
  else return false

/-- The characters of a text up to a line feed, which is not taken. -/
def skipComment : Parse Unit :=
  modify fun input => { input with rest := input.rest.dropWhile (· != '\n') }

/-- Takes the longest row of characters of a kind, after joining lines. -/
def takeRun (kind : Char → Bool) : (fuel : Nat) → Parse (List Char)
  | 0 => return []
  | fuel + 1 => do
    match ← peekJoined with
    | some c =>
      if kind c then
        let _ ← getJoined
        return c :: (← takeRun kind fuel)
      else return []
    | none => return []

/-- Has the last token read again. -/
def pushBack : Parse Unit := modify fun input => { input with again := true }

/-- Says what is looked for next. -/
def expect (expected : Expected) : Parse Unit := modify fun input => { input with expected }

/-! ## Adding to pieces -/

/-- Puts text in front of pieces. -/
def consText (c : Char) (quoted : Bool) : Word → Word
  | .text content q :: pieces =>
    if q == quoted then .text (c :: content) q :: pieces
    else .text [c] quoted :: .text content q :: pieces
  | pieces => .text [c] quoted :: pieces

/-- Quoted pieces: quotes make a field, but all arguments in quotes of their own
make none if there are none. -/
def quotation (pieces : Word) : Word :=
  match pieces with
  | [.parameter ['@'] .value true] => pieces
  | pieces => .anchor :: pieces ++ [.anchor]

end HostPreflight.Machine.Shell
