import HostPreflight.Machine.Shell.Arithmetic
import HostPreflight.Machine.Shell.Path

/-!
# Expansion

Puts the values of parameters, the outputs of commands and the values of
expressions into words, splits them into fields, and puts the paths that patterns
match in their places.

## Main definitions

* `Manner` — how a word is expanded.
* `expandPieces` — the marked text of a word.
* `expandText`, `expandPattern` — a word as one text or as a pattern.
* `expandFields` — a word as fields.
-/

namespace HostPreflight.Machine.Shell

/-- Runs a command and gives what it has written. -/
abbrev Capture := Command → Eval (List Char)

/-- How a word is expanded. -/
structure Manner where
  /-- Whether it is split into fields. -/
  split : Bool := false
  /-- Whether text of the script itself is split too. -/
  splitText : Bool := false
  /-- Whether a tilde at the start stands for a directory. -/
  tilde : Bool := false
  /-- Whether a tilde after a colon does so too. -/
  tildes : Bool := false

namespace Manner

/-- A word that makes one text. -/
def single : Manner := { tilde := true }

/-- The value of a variable. -/
def assigned : Manner := { tilde := true, tildes := true }

/-- A word that makes fields. -/
def fields : Manner := { split := true, tilde := true }

end Manner

/-! ## Parameters -/

/-- The directory that a tilde stands for. -/
def homeOf? (p : Process) (user : List Char) : Option (List Char) :=
  if user.isEmpty then p.value? "HOME".toList
  else if user = "root".toList then some "/root".toList
  else none

/-- What a tilde at the start of a text stands for, and the rest; the word ends with
the text if `last`. -/
def expandTilde? (p : Process) (tildes last : Bool) (text : List Char) :
    Option (Marks × List Char) :=
  match text with
  | '~' :: rest =>
    let (user, after) := rest.span fun c => c != '/' && !(tildes && c == ':')
    if after.isEmpty && !last then none
    else (homeOf? p user).map fun home => (marked true false home, after)
  | _ => none

/-- Marks the text of a script, its tildes replaced. -/
def markText (p : Process) (manner : Manner) (last : Bool) : (fuel : Nat) → (atStart : Bool) →
    List Char → Marks
  | 0, _, _ => []
  | _ + 1, _, [] => []
  | fuel + 1, atStart, c :: cs =>
    match if atStart then expandTilde? p manner.tildes last (c :: cs) else none with
    | some (home, rest) => home ++ markText p manner last fuel false rest
    | none =>
      .char c false manner.splitText :: markText p manner last fuel (manner.tildes && c == ':') cs

/-- The letters of the options that are on, in the order in which they are listed. -/
def optionLetters (p : Process) : List Char :=
  "pubaCEVvxsnmiIfe".toList.filter p.options.contains

/-- The texts of all arguments in one, with what stands between them. -/
def joinArguments (between : Marks) (quoted split : Bool) : List (List Char) → Marks
  | [] => []
  | [argument] => marked quoted split argument
  | argument :: arguments =>
    marked quoted split argument ++ between ++ joinArguments between quoted split arguments

/-- What stands between all arguments: their borders where fields are split, and
else the first character at which fields are split. -/
def betweenArguments (p : Process) (manner : Manner) (star quoted : Bool) : Marks :=
  let separators := p.value? "IFS".toList
  if manner.split && !quoted && separators.isSome then [.gap false]
  else if manner.split && quoted && !star then [.gap true]
  else marked quoted (!quoted) ((separators.getD [' ']).take 1)

/-- The value of a parameter that is a sign or a number. -/
def specialValue? (p : Process) (name : List Char) : Option (List Char) :=
  match name with
  | ['#'] => some (decimal p.arguments.length)
  | ['?'] => some (decimal p.status)
  | ['$'] => some (decimal p.number)
  | ['!'] => p.lastJob.map decimal
  | ['-'] => some (optionLetters p)
  | name => (count? name).bind (argument? p)

/-- The value of a parameter, marked. -/
def parameterMarks (p : Process) (manner : Manner) (name : List Char) (quoted : Bool) :
    Option Marks :=
  if name = ['@'] ∨ name = ['*'] then
    let between := betweenArguments p manner (name = ['*']) quoted
    some (joinArguments between quoted (!quoted) p.arguments)
  else
    (if isName name then p.value? name else specialValue? p name).map (marked quoted (!quoted))

/-- What is said of a parameter that has no value. -/
def unsetText (evenIfEmpty : Bool) : List Char :=
  "parameter not set".toList ++ (if evenIfEmpty then " or null".toList else [])

/-- Complains about a parameter. -/
def failParameter {α : Type} (name text : List Char) : Eval α := fail (name ++ ':' :: ' ' :: text)

/-- Cuts off a part of a text that matches a pattern: the shortest or the longest, at
its start or at its end.  Of some arguments, only the first in the part has to match,
and a part that is looked for from the start must start or end in the first one. -/
def trimMarks (fromStart longest : Bool) (pattern : List Char) (marks : Marks) : Marks :=
  let isMatching (part : Marks) : Bool := isMatch pattern (textOf (part.takeWhile (!·.isGap)))
  let counts :=
    if fromStart = longest then (List.range (marks.length + 1)).reverse
    else List.range ((marks.takeWhile (!·.isGap)).length + 1)
  let hit := counts.find? fun n => isMatching (if fromStart then marks.take n else marks.drop n)
  match hit with
  | some n => if fromStart then marks.drop n else marks.take n
  | none => marks

/-! ## Words -/

/-- The output of a command without the line feeds at its end. -/
def trimOutput (output : List Char) : List Char :=
  ((output.filter (· != '\x00')).reverse.dropWhile (· == '\n')).reverse

/-- The marks of an expansion with its end, which counts outside of quotes, and in them
after the arguments. -/
def withEdge (p : Process) (name : List Char) (quoted : Bool) (marks : Marks) : Marks :=
  if !quoted then marks ++ [.edge false]
  else if name = ['@'] ∧ !p.arguments.isEmpty then marks ++ [.edge true]
  else marks

mutual

/-- The marked text of the pieces of a word. -/
def expandPieces (capture : Capture) : (fuel : Nat) → Manner → (atStart : Bool) → Word → Eval Marks
  | 0, _, _, _ => return []
  | _ + 1, _, _, [] => return []
  | fuel + 1, manner, atStart, piece :: pieces => do
    let first ← expandPiece capture fuel manner atStart pieces.isEmpty piece
    let atStart := match piece with
      | .text content false => manner.tildes && content.getLast? == some ':'
      | _ => false
    return first ++ (← expandPieces capture fuel manner atStart pieces)

/-- The marked text of a piece of a word. -/
def expandPiece (capture : Capture) : (fuel : Nat) → Manner → (atStart last : Bool) → Piece →
    Eval Marks
  | 0, _, _, _, _ => return []
  | fuel + 1, manner, atStart, last, piece => do
    match piece with
    | .text content quoted =>
      if quoted then return marked true false content
      else
        let atStart := atStart && manner.tilde
        return markText (← process) manner last (content.length + 1) atStart content
    | .anchor => return [.anchor]
    | .output body quoted =>
      let output ← capture body
      return withEdge (← process) [] quoted (marked quoted (!quoted) (trimOutput output))
    | .arithmetic expression quoted =>
      let text := textOf (← expandPieces capture fuel {} false expression)
      let value ← Arithmetic.evaluate text
      return withEdge (← process) [] quoted (marked quoted (!quoted) (decimalInt value))
    | .parameter name form quoted =>
      let p ← process
      let value := parameterMarks p manner name quoted
      let ended (marks : Marks) : Marks := withEdge p name quoted marks
      let ifMissing (marks : Marks) : Eval Marks :=
        if p.options.contains 'u' then failParameter name (unsetText false) else return marks
      let together := parameterMarks p { manner with split := false } name quoted
      let expandFallback (word : Word) : Eval Marks :=
        expandPieces capture fuel { manner with tilde := true, splitText := !quoted } true word
      match form with
      | .value =>
        match value with
        | some marks => return ended marks
        | none => ifMissing []
      | .length =>
        match together with
        | some marks => return ended (marked quoted (!quoted) (decimal marks.length))
        | none => ifMissing (marked quoted false ['0'])
      | .malformed => fail "Bad substitution".toList
      | .fallback operator evenIfEmpty word =>
        let missing := match if operator == '+' then together else value with
          | none => true
          | some marks => evenIfEmpty && marks.isEmpty
        match operator with
        | '+' => if missing then return ended [] else expandFallback word
        | '-' => if missing then expandFallback word else return ended (value.getD [])
        | '=' =>
          if missing then
            let text := textOf (← expandPieces capture fuel { tilde := true } true word)
            setNamed name text
            return ended ((parameterMarks (← process) manner name quoted).getD [])
          else return ended (value.getD [])
        | _ =>
          if missing then
            let text := textOf (← expandPieces capture fuel { tilde := true } true word)
            failParameter name (if word.isEmpty then unsetText evenIfEmpty else text)
          else return ended (value.getD [])
      | .trim fromStart longest pattern =>
        match value with
        | none => ifMissing []
        | some marks =>
          let pattern := patternOf (← expandPieces capture fuel { tilde := true } true pattern)
          return ended (trimMarks fromStart longest pattern marks)

end

/-- The nesting of words that are expanded. -/
def expansionFuel : Nat := 100000

/-- The marked text of a word. -/
def expandMarks (capture : Capture) (manner : Manner) (word : Word) : Eval Marks :=
  expandPieces capture expansionFuel manner true word

/-- A word as one text. -/
def expandText (capture : Capture) (manner : Manner) (word : Word) : Eval (List Char) :=
  return textOf (← expandMarks capture manner word)

/-- A word as a pattern. -/
def expandPattern (capture : Capture) (word : Word) : Eval (List Char) :=
  return patternOf (← expandMarks capture .single word)

/-- A field, or the paths that it matches. -/
def fieldNames (field : Marks) : Eval (List (List Char)) := do
  if ← hasOption 'f' then return [textOf field]
  else
    match namesMatching (← get) (patternOf field) with
    | [] => return [textOf field]
    | names => return names

/-- A word as fields. -/
def expandFields (capture : Capture) (word : Word) : Eval (List (List Char)) := do
  let marks ← expandMarks capture .fields word
  return (← (splitMarks (← process).separators marks).mapM fieldNames).flatten

end HostPreflight.Machine.Shell
