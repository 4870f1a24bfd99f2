import HostPreflight.Machine.Shell.Text

/-!
# Patterns of the shell

A pattern is a text in which `*` stands for any text, `?` for any character and
brackets for one of a set; a backslash takes the meaning off the next character.

## Main definitions

* `isMatch pattern text` — whether a pattern matches a whole text.
* `hasWildcard pattern` — whether a pattern can match anything but itself.
* `unescaped pattern` — the text that a pattern without wildcards matches.
-/

namespace HostPreflight.Machine.Shell

/-- The kinds of characters that a set can name. -/
def characterClasses : List (String × (Char → Bool)) := [
  ("alnum", Char.isAlphanum),
  ("cntrl", fun c => c.toNat < 32 || c.toNat == 127),
  ("lower", Char.isLower),
  ("space", isSpace),
  ("alpha", Char.isAlpha),
  ("digit", Char.isDigit),
  ("print", fun c => 32 ≤ c.toNat && c.toNat < 127),
  ("upper", Char.isUpper),
  ("blank", fun c => c == ' ' || c == '\t'),
  ("graph", fun c => 32 < c.toNat && c.toNat < 127),
  ("punct", fun c => 32 < c.toNat && c.toNat < 127 && !c.isAlphanum),
  ("xdigit", fun c => (digitValue? 16 c).isSome)]

/-- The class named after an opening bracket, and the rest of the pattern. -/
def classAt? (pattern : List Char) : Option ((Char → Bool) × List Char) :=
  characterClasses.findSome? fun (name, holds) =>
    let written := ':' :: name.toList ++ [':', ']']
    if written.isPrefixOf pattern then some (holds, pattern.drop written.length) else none

/-- The order of octets in ranges, in which those from 128 on come first. -/
def octetOrder (c : Char) : Nat := (c.toNat + 128) % 256

/-- Whether a character lies in a range. -/
def isBetween (low high c : Char) : Bool :=
  octetOrder low ≤ octetOrder c && octetOrder c ≤ octetOrder high

/-- Looks for a character in the set that follows an opening bracket: whether it is
in it, and the pattern after the closing bracket.  The closing bracket may be the
first member. -/
def inSet (c : Char) : (fuel : Nat) → (first : Bool) → List Char → Option (Bool × List Char)
  | 0, _, _ => none
  | _ + 1, _, [] => none
  | fuel + 1, first, member :: rest =>
    if member == ']' && !first then some (false, rest)
    else
      match (if member == '[' then classAt? rest else none) with
      | some (holds, rest) =>
        (inSet c fuel false rest).map fun (found, rest) => (found || holds c, rest)
      | none =>
        let (low, rest) := match member, rest with
          | '\\', next :: rest => (next, rest)
          | member, rest => (member, rest)
        let (found, rest) := match rest with
          | '-' :: ']' :: _ => (c == low, rest)
          | '-' :: '\\' :: high :: rest => (isBetween low high c, rest)
          | '-' :: high :: rest => (isBetween low high c, rest)
          | rest => (c == low, rest)
        (inSet c fuel false rest).map fun (others, rest) => (found || others, rest)

/-- Whether a character is in the set after an opening bracket, and the pattern
after the set; none if the set is not closed. -/
def matchSet (c : Char) (pattern : List Char) : Option (Bool × List Char) :=
  match pattern with
  | '!' :: members =>
    (inSet c (pattern.length + 1) true members).map fun (found, rest) => (!found, rest)
  | members => inSet c (pattern.length + 1) true members

/-- How an attempt to match the rest of a pattern with the rest of a text ends. -/
inductive Attempt where
  /-- The two match. -/
  | fits
  /-- They do not match, but a shorter rest of the text might. -/
  | fails
  /-- Neither this rest of the text nor a shorter one matches. -/
  | runsOut
  deriving DecidableEq

/-- Matches a pattern with all of a text.  A star tries every rest of the text in
turn; when it has tried them all, a star before it has no rest left to try either,
as its rests are among those. -/
def matchFrom : (fuel : Nat) → List Char → List Char → Attempt
  | 0, _, _ => .fails
  | _ + 1, [], text => if text.isEmpty then .fits else .fails
  | fuel + 1, '*' :: pattern, text =>
    match matchFrom fuel pattern text with
    | .fails =>
      match text with
      | [] => .runsOut
      | _ :: text => matchFrom fuel ('*' :: pattern) text
    | attempt => attempt
  | _ + 1, _ :: _, [] => .runsOut
  | fuel + 1, '?' :: pattern, _ :: text => matchFrom fuel pattern text
  | fuel + 1, '\\' :: p :: pattern, c :: text =>
    if p == c then matchFrom fuel pattern text else .fails
  | fuel + 1, '[' :: pattern, c :: text =>
    match matchSet c pattern with
    | some (found, pattern) => if found then matchFrom fuel pattern text else .fails
    | none => if c == '[' then matchFrom fuel pattern text else .fails
  | fuel + 1, p :: pattern, c :: text => if p == c then matchFrom fuel pattern text else .fails

/-- Whether a pattern matches all of a text. -/
def isMatch (pattern text : List Char) : Bool :=
  matchFrom (pattern.length + text.length + 1) pattern text = .fits

/-- Whether a set that has been opened is closed before the next slash. -/
def closesSet : (fuel : Nat) → (first : Bool) → List Char → Bool
  | 0, _, _ => false
  | _ + 1, _, [] => false
  | fuel + 1, first, c :: rest =>
    if c == ']' && !first then true
    else if c == '/' then false
    else if c == '\\' then closesSet fuel false (rest.drop 1)
    else closesSet fuel false rest

/-- Whether a pattern can match anything but itself. -/
def hasWildcard : List Char → Bool
  | [] => false
  | '*' :: _ => true
  | '?' :: _ => true
  | '\\' :: _ :: pattern => hasWildcard pattern
  | '[' :: pattern =>
    let members := match pattern with
      | '!' :: members => members
      | members => members
    closesSet (members.length + 1) true members || hasWildcard pattern
  | _ :: pattern => hasWildcard pattern

/-- The text that a pattern without wildcards matches. -/
def unescaped : List Char → List Char
  | '\\' :: c :: pattern => c :: unescaped pattern
  | c :: pattern => c :: unescaped pattern
  | [] => []

/-- A pattern that matches one text only. -/
def escaped (text : List Char) : List Char := text.flatMap fun c => ['\\', c]

/-- Taking the backslashes off a text that was escaped gives the text back. -/
@[simp] theorem unescaped_escaped (text : List Char) : unescaped (escaped text) = text := by
  induction text with
  | nil => rfl
  | cons c text ih => simpa [escaped, unescaped] using ih

/-- An escaped text has no wildcards. -/
@[simp] theorem hasWildcard_escaped (text : List Char) : hasWildcard (escaped text) = false := by
  induction text with
  | nil => rfl
  | cons c text ih => simpa [escaped, hasWildcard] using ih

end HostPreflight.Machine.Shell
