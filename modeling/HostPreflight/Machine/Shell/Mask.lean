import HostPreflight.Machine.Shell.Switch

/-!
# The mask of permissions

The permissions that files do not get when they are made, as three octal digits: for
the owner, the group and all others.

## Main definitions

* `octalMask?`, `symbolicMask?` — the mask that a text describes.
* `performMask` — the built-in command.
-/

namespace HostPreflight.Machine.Shell

/-- The mask that octal digits spell. -/
def octalMask? (text : List Char) : Option Nat :=
  if text.all fun c => (digitValue? 8 c).isSome then some ((scanDigits 8 0 text).1 % 512) else none

/-- The place of a letter that says whose permissions are meant. -/
def placeOf? (c : Char) : Option Nat :=
  [('a', 73), ('u', 64), ('g', 8), ('o', 1)].lookup c

/-- The permissions of a letter where some are allowed already. -/
def permissionOf? (allowed : Nat) (c : Char) : Option Nat :=
  match c with
  | 'r' => some 4
  | 'w' => some 2
  | 'x' => some 1
  | 'u' => some (allowed / 64)
  | 'g' => some (allowed / 8)
  | 'o' => some allowed
  | 'X' => some (if allowed &&& 73 = 0 then 0 else 1)
  | 's' => some 0
  | _ => none

/-- All values of letters at the start of a text, and the rest. -/
def takeLetters (value? : Char → Option Nat) : List Char → Nat × List Char
  | [] => (0, [])
  | c :: cs =>
    match value? c with
    | some value =>
      let (others, rest) := takeLetters value? cs
      (value ||| others, rest)
    | none => (0, c :: cs)

/-- What a sign does to permissions at some places. -/
def applySign (sign : Char) (places permissions allowed : Nat) : Nat :=
  let meant := (permissions &&& 7) * places
  match sign with
  | '-' => allowed &&& (511 ^^^ meant)
  | '+' => allowed ||| meant
  | _ => meant ||| (allowed &&& (511 ^^^ (places * 7)))

/-- What clauses like `u=rw` leave of the permissions; none if they make no sense.
Those that were allowed at first are `before`. -/
def permissionsFrom (before : Nat) : (fuel : Nat) → (places : Nat) → (allowed : Nat) → List Char →
    Option Nat
  | 0, _, _, _ => none
  | _ + 1, _, allowed, [] => some allowed
  | fuel + 1, places, allowed, text =>
    let (more, text) := takeLetters placeOf? text
    let places := if places ||| more = 0 then 73 else places ||| more
    match text with
    | [] => some allowed
    | sign :: text =>
      if sign == '=' || sign == '+' || sign == '-' then
        let (permissions, text) := takeLetters (permissionOf? before) text
        let allowed := applySign sign places permissions allowed
        match text with
        | [] => some allowed
        | ',' :: text => permissionsFrom before fuel 0 allowed text
        | c :: text =>
          if c == '=' || c == '+' || c == '-' then
            permissionsFrom before fuel places allowed (c :: text)
          else none
      else none

/-- The mask that clauses like `u=rw` describe. -/
def symbolicMask? (mask : Nat) (text : List Char) : Option Nat :=
  let allowed := 511 ^^^ (mask % 512)
  (permissionsFrom allowed (text.length + 1) 0 allowed text).map fun allowed =>
    511 ^^^ (allowed % 512)

/-- The letters of some permissions. -/
def permissionLetters (permissions : Nat) : List Char :=
  (if permissions &&& 4 = 0 then [] else ['r']) ++ (if permissions &&& 2 = 0 then [] else ['w'])
    ++ (if permissions &&& 1 = 0 then [] else ['x'])

/-- Changes the mask or tells it. -/
def performMask (arguments : List (List Char)) : Eval Ending := do
  let (switches, arguments) ← readSwitches "S" arguments
  let mask := (← process).mask
  match arguments with
  | [] =>
    if switches.isEmpty then
      let digits := decimal (mask / 64) ++ decimal (mask / 8 % 8) ++ decimal (mask % 8)
      answer ('0' :: digits ++ ['\n'])
    else
      let allowed := 511 ^^^ mask
      answer ("u=".toList ++ permissionLetters (allowed / 64) ++ ",g=".toList
        ++ permissionLetters (allowed / 8) ++ ",o=".toList ++ permissionLetters allowed ++ ['\n'])
  | text :: _ =>
    if (text.head?.map isNumeral).getD false then
      match octalMask? text with
      | some mask => modifyProcess fun p => { p with mask }
      | none => illegalNumber text
    else
      match symbolicMask? mask text with
      | some mask => modifyProcess fun p => { p with mask }
      | none => fail ("Illegal mode: ".toList ++ text)
    done

end HostPreflight.Machine.Shell
