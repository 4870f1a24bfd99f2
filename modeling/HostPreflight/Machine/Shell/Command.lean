import HostPreflight.Machine.Shell.Text

/-!
# Commands of the shell

The commands of a script and the words that they are made of.  A word is made of
pieces: text that stands for itself, parameters, commands whose output is put in
their place, and arithmetic.

## Main definitions

* `Piece`, `Form` — the pieces of a word, and what is done with a parameter.
* `Redirection` — where a command's input comes from or its output goes.
* `Command` — the commands.
* `assignment?` — words that assign a variable.
-/

namespace HostPreflight.Machine.Shell

/-- How a file is opened. -/
inductive OpenMode where
  | read
  | write
  /-- Writes even where the script protects files. -/
  | force
  | append
  | both
  deriving DecidableEq, Repr

mutual

/-- A piece of a word. -/
inductive Piece where
  | text (content : List Char) (quoted : Bool)
  /-- Quotes, which make a field even if nothing stands between them. -/
  | anchor
  | parameter (name : List Char) (form : Form) (quoted : Bool)
  /-- A command whose output is put in its place. -/
  | output (body : Command) (quoted : Bool)
  /-- An arithmetic expression whose value is put in its place. -/
  | arithmetic (expression : List Piece) (quoted : Bool)

/-- What is done with the value of a parameter. -/
inductive Form where
  | value
  | length
  /-- What a word is used for: `-` if there is no value, `=` to set one, `?` to
  complain, `+` if there is one.  An empty value may count as none. -/
  | fallback (operator : Char) (evenIfEmpty : Bool) (word : List Piece)
  /-- A part that matches a pattern is cut off. -/
  | trim (fromStart longest : Bool) (pattern : List Piece)
  /-- Nothing that makes sense. -/
  | malformed

/-- Where a command's input comes from or its output goes. -/
inductive Redirection where
  | file (descriptor : Nat) (mode : OpenMode) (path : List Piece)
  /-- The same as another descriptor, or closed. -/
  | duplicate (descriptor : Nat) (other : List Piece)
  /-- A text in the script, by its number. -/
  | document (descriptor : Nat) (number : Nat)

/-- A command of a script. -/
inductive Command where
  | nothing
  | simple (line : Nat) (assignments words : List (List Piece))
      (redirections : List Redirection)
  | redirected (line : Nat) (body : Command) (redirections : List Redirection)
  /-- A command in a shell of its own. -/
  | subshell (line : Nat) (body : Command) (redirections : List Redirection)
  /-- A command that is not waited for. -/
  | background (line : Nat) (body : Command)
  /-- Commands whose outputs are the inputs of the next ones. -/
  | pipeline (commands : List Command)
  | negation (body : Command)
  | both (first second : Command)
  | either (first second : Command)
  | sequence (first second : Command)
  | choice (test yes : Command) (no : Option Command)
  /-- Repeats the body as long as the test's success is `expected`. -/
  | loop (expected : Bool) (test body : Command)
  /-- Runs the body for each field of some words. -/
  | forEach (line : Nat) (name : List Char) (words : List (List Piece)) (body : Command)
  /-- Runs the body of the first arm with a pattern that matches. -/
  | select (line : Nat) (subject : List Piece) (arms : List (List (List Piece) × Command))
  | define (line : Nat) (name : List Char) (body : Command)

end

instance : Inhabited Command := ⟨.nothing⟩

/-- A word: its pieces in order. -/
abbrev Word := List Piece

/-- Whether a piece is text without quotes, and which. -/
def Piece.plain? : Piece → Option (List Char)
  | .text content false => some content
  | _ => none

/-- Whether a piece is quoted text, or quotes. -/
def Piece.isQuotation : Piece → Bool
  | .text _ quoted => quoted
  | .anchor => true
  | .parameter _ _ quoted => quoted
  | .output _ quoted => quoted
  | .arithmetic _ quoted => quoted

/-- The text of a word that is nothing but text without quotes. -/
def plainWord? : Word → Option (List Char)
  | [.text content false] => some content
  | _ => none

/-- The text of a word, its quotes left out. -/
def wordText (word : Word) : List Char :=
  word.flatMap fun
    | .text content _ => content
    | _ => []

/-- The name and the value of a word that assigns a variable. -/
def assignment? : Word → Option (List Char × Word)
  | .text content false :: pieces =>
    match content.span (· != '=') with
    | (name, _ :: value) =>
      if isName name then
        some (name, if value.isEmpty then pieces else .text value false :: pieces)
      else none
    | (_, []) => none
  | _ => none

end HostPreflight.Machine.Shell
