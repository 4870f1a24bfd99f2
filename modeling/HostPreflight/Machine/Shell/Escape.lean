import HostPreflight.Machine.Shell.Text

/-!
# Escapes

What a backslash and the characters after it stand for in texts that are written.

## Main definitions

* `escape` — the character that follows a backslash in a format.
* `unescape` — a whole text, which an escape `\c` ends.
* `echoText` — what `echo` writes.
-/

namespace HostPreflight.Machine.Shell

/-- An octal digit. -/
def isOctal (c : Char) : Bool := (digitValue? 8 c).isSome

/-- The octal digits at the start of a text, at most `most`: their value and the rest. -/
def octal : (most : Nat) → (value : Nat) → List Char → Nat × List Char
  | most + 1, value, c :: rest =>
    match digitValue? 8 c with
    | some digit => octal most (8 * value + digit) rest
    | none => (value, c :: rest)
  | _, value, cs => (value, cs)

/-- The character that a letter after a backslash stands for. -/
def control? (c : Char) : Option Char :=
  [('\\', '\\'), ('a', '\x07'), ('b', '\x08'), ('e', '\x1b'), ('f', '\x0c'), ('n', '\n'),
    ('r', '\r'), ('t', '\t'), ('v', '\x0b')].lookup c

/-- What a backslash and the text after it stand for, and the rest. -/
def escape (cs : List Char) : Char × List Char :=
  match cs with
  | [] => ('\\', [])
  | c :: rest =>
    if isOctal c then
      let (value, rest) := octal 3 0 cs
      (Char.ofNat (value % 256), rest)
    else
      match control? c with
      | some control => (control, rest)
      | none => ('\\', cs)

/-- A text with its escapes replaced, and whether an escape `\c` has ended it.  A
zero in front of an octal number does not count as one of its digits. -/
def unescape : (fuel : Nat) → List Char → List Char × Bool
  | 0, _ => ([], false)
  | _ + 1, [] => ([], false)
  | _ + 1, '\\' :: 'c' :: _ => ([], true)
  | fuel + 1, '\\' :: rest =>
    let rest := match rest with
      | '0' :: c :: more => if isOctal c then c :: more else rest
      | rest => rest
    let (c, rest) := escape rest
    let (text, ended) := unescape fuel rest
    (c :: text, ended)
  | fuel + 1, c :: rest =>
    let (text, ended) := unescape fuel rest
    (c :: text, ended)

/-- A text with its escapes replaced, and whether an escape `\c` has ended it. -/
def unescapeAll (cs : List Char) : List Char × Bool := unescape (cs.length + 1) cs

/-- What `echo` writes: its arguments up to one that ends the output. -/
def echoWords (line : Bool) : List (List Char) → List Char
  | [] => if line then ['\n'] else []
  | word :: words =>
    let (text, ended) := unescapeAll word
    if ended then text
    else if words.isEmpty then text ++ (if line then ['\n'] else [])
    else text ++ ' ' :: echoWords line words

/-- What `echo` writes. -/
def echoText : List (List Char) → List Char
  | ['-', 'n'] :: words => echoWords false words
  | words => echoWords true words

end HostPreflight.Machine.Shell
