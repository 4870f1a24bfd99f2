import HostPreflight.Machine.Shell.Expansion

/-!
# Redirections

What is done with the descriptors of a process for the time of a command.

## Main definitions

* `Opening` — a redirection whose words have been expanded.
* `expandRedirections` — expands the words of redirections.
* `carryOutOpenings` — changes the descriptors.
* `restoreDescriptors` — undoes that.
-/

namespace HostPreflight.Machine.Shell

/-- A redirection whose words have been expanded. -/
inductive Opening where
  | file (descriptor : Nat) (mode : OpenMode) (path : List Char)
  | copy (descriptor source : Nat)
  | close (descriptor : Nat)
  | document (descriptor number : Nat)

/-- The descriptor that is changed. -/
def Opening.descriptor : Opening → Nat
  | .file descriptor .. => descriptor
  | .copy descriptor _ => descriptor
  | .close descriptor => descriptor
  | .document descriptor _ => descriptor

/-- Expands the word of a redirection. -/
def expandRedirection (capture : Capture) : Redirection → Eval Opening
  | .file descriptor mode path => return .file descriptor mode (← expandText capture .single path)
  | .document descriptor number => return .document descriptor number
  | .duplicate descriptor other => do
    match ← expandText capture .single other with
    | ['-'] => return .close descriptor
    | text =>
      match text with
      | [digit] =>
        if isNumeral digit then return .copy descriptor (digit.toNat - '0'.toNat) else failNumber
      | _ => failNumber
where
  /-- Complains about the line up to which the script has been read. -/
  failNumber : Eval Opening := do
    failAt ⟨(← process).readLine, "Syntax error: Bad fd number".toList⟩

/-- Expands the words of redirections. -/
def expandRedirections (capture : Capture) (redirections : List Redirection) :
    Eval (List Opening) :=
  redirections.mapM (expandRedirection capture)

namespace Process

/-- Puts an open file behind a descriptor; none closes it. -/
def setDescriptor (p : Process) (descriptor : Nat) (stream : Option Nat) : Process :=
  let others := p.descriptors.filter (·.1 != descriptor)
  { p with descriptors := match stream with
    | some number => (descriptor, number) :: others
    | none => others }

end Process

/-- Carries out a redirection.  If what was behind the descriptor is `kept` for later, the
descriptor is already closed when a copy fails. -/
def carryOut (capture : Capture) (kept : Bool) (opening : Opening) : Eval Unit := do
  let place (descriptor : Nat) (stream : Option Nat) : Eval Unit :=
    modifyProcess fun p => p.setDescriptor descriptor stream
  match opening with
  | .file descriptor mode path => place descriptor (some (← openFile mode path))
  | .close descriptor => place descriptor none
  | .copy descriptor source =>
    if descriptor != source then
      match ← streamNumber source with
      | some number => place descriptor (some number)
      | none =>
        if kept then place descriptor none
        fail (decimal source ++ ": Bad file descriptor".toList)
  | .document descriptor number =>
    let text ← expandText capture {} (((← process).documents.lookup number).getD [])
    place descriptor (some (← addStream (.source text)))

/-- Carries out redirections in order. -/
def carryOutOpenings (capture : Capture) (kept : Bool) (openings : List Opening) : Eval Unit :=
  for opening in openings do
    carryOut capture kept opening

/-- Carries out redirections that will be undone; false after a mistake. -/
def tryOpenings (capture : Capture) (openings : List Opening) : Eval Bool :=
  tryCatch (do
    carryOutOpenings capture true openings
    return true) fun abort =>
      match abort with
      | .mistake => return false
      | abort => throw abort

/-- Puts back what was behind the descriptors that redirections have changed. -/
def restoreDescriptors (before : Process) (openings : List Opening) : Eval Unit :=
  modifyProcess fun p => openings.foldl (fun p opening =>
    p.setDescriptor opening.descriptor (before.descriptors.lookup opening.descriptor)) p

/-- Runs a computation after redirections, which are undone at its end.  After a
mistake in them another one is run. -/
def withOpenings (capture : Capture) (openings : List Opening) (body otherwise : Eval Unit) :
    Eval Unit := do
  let before ← process
  finally' (do
    if ← tryOpenings capture openings then body
    else
      setStatus 2
      otherwise)
    (restoreDescriptors before openings)

end HostPreflight.Machine.Shell
