import HostPreflight.Libraries
import HostPreflight.Probe

/-!
# Searching for libraries

The two ways to the names of the installed libraries: through the entries of the
library directory, or through the link line that the package database prints.

## Main definitions

* `searchDirectory directory` — the libraries of a directory.
* `searchPackages` — the libraries of the link line.
-/

namespace HostPreflight

open Dialogue Text

/-- The program that knows the installed packages. -/
def packageProgram : String := "pkg-config"

/-- What it is asked for: the static link line of the dataplane. -/
def packageArguments : List String := ["--static", "--libs", "libdpdk"]

/-- The entries of a directory that are not shared objects. -/
def ignoredEntries (entries : List (List UInt8)) : List (List Char) :=
  (entries.map Utf8.decodeLossy).filter fun entry => (sharedObjectName? entry).isNone

/-- The libraries of a directory. -/
def searchDirectory (directory : String) : MachineDialogue (Except Failure LinkLibraries) := do
  if ← query (Request.isDirectory directory) then
    match ← query (Request.list directory) with
    | .error broken =>
      -- The entries before the error have been looked at already.
      logAll ((ignoredEntries broken.seen).map .ignoring)
      return .error (.io directory broken.cause)
    | .ok entries =>
      logAll ((ignoredEntries entries).map .ignoring)
      let libraries := LinkLibraries.ofEntries entries
      log (.foundLibraries libraries.size directory)
      return .ok libraries
  else return .error (.notFound directory)

/-- The libraries of the link line. -/
def searchPackages : MachineDialogue (Except Failure LinkLibraries) := do
  match ← captureOutput packageProgram packageArguments with
  | .error failure => return .error failure
  | .ok line => return .ok (.ofLinkLine line)

end HostPreflight
