import HostPreflight.Failure.System

/-!
# Causes of failed input and output

Why a file could not be read, a program not started or a stream not written.

## Main definitions

* `Kind` — the kinds of causes, with a name and a description each.
* `Cause` — an error number of the system, a kind, or a kind with a text of its own.
* `Cause.message` — the wording.
-/

namespace HostPreflight.Failure

/-- The kinds of causes. -/
inductive Kind where
  | addrInUse
  | addrNotAvailable
  | alreadyExists
  | argumentListTooLong
  | brokenPipe
  | connectionAborted
  | connectionRefused
  | connectionReset
  | crossesDevices
  | deadlock
  | directoryNotEmpty
  | executableFileBusy
  | fileTooLarge
  | filesystemLoop
  | hostUnreachable
  | inProgress
  | interrupted
  | invalidData
  | invalidFilename
  | invalidInput
  | isADirectory
  | networkDown
  | networkUnreachable
  | notADirectory
  | notConnected
  | notFound
  | notSeekable
  | other
  | outOfMemory
  | permissionDenied
  | quotaExceeded
  | readOnlyFilesystem
  | resourceBusy
  | staleNetworkFileHandle
  | storageFull
  | timedOut
  | tooManyLinks
  | uncategorized
  | unexpectedEof
  | unsupported
  | wouldBlock
  | writeZero
  deriving DecidableEq, Repr

namespace Kind

/-- Every kind with its name and its description. -/
def all : List (Kind × String × String) := [
  (.addrInUse, "AddrInUse", "address in use"),
  (.addrNotAvailable, "AddrNotAvailable", "address not available"),
  (.alreadyExists, "AlreadyExists", "entity already exists"),
  (.argumentListTooLong, "ArgumentListTooLong", "argument list too long"),
  (.brokenPipe, "BrokenPipe", "broken pipe"),
  (.connectionAborted, "ConnectionAborted", "connection aborted"),
  (.connectionRefused, "ConnectionRefused", "connection refused"),
  (.connectionReset, "ConnectionReset", "connection reset"),
  (.crossesDevices, "CrossesDevices", "cross-device link or rename"),
  (.deadlock, "Deadlock", "deadlock"),
  (.directoryNotEmpty, "DirectoryNotEmpty", "directory not empty"),
  (.executableFileBusy, "ExecutableFileBusy", "executable file busy"),
  (.fileTooLarge, "FileTooLarge", "file too large"),
  (.filesystemLoop, "FilesystemLoop", "filesystem loop or indirection limit (e.g. symlink loop)"),
  (.hostUnreachable, "HostUnreachable", "host unreachable"),
  (.inProgress, "InProgress", "in progress"),
  (.interrupted, "Interrupted", "operation interrupted"),
  (.invalidData, "InvalidData", "invalid data"),
  (.invalidFilename, "InvalidFilename", "invalid filename"),
  (.invalidInput, "InvalidInput", "invalid input parameter"),
  (.isADirectory, "IsADirectory", "is a directory"),
  (.networkDown, "NetworkDown", "network down"),
  (.networkUnreachable, "NetworkUnreachable", "network unreachable"),
  (.notADirectory, "NotADirectory", "not a directory"),
  (.notConnected, "NotConnected", "not connected"),
  (.notFound, "NotFound", "entity not found"),
  (.notSeekable, "NotSeekable", "seek on unseekable file"),
  (.other, "Other", "other error"),
  (.outOfMemory, "OutOfMemory", "out of memory"),
  (.permissionDenied, "PermissionDenied", "permission denied"),
  (.quotaExceeded, "QuotaExceeded", "quota exceeded"),
  (.readOnlyFilesystem, "ReadOnlyFilesystem", "read-only filesystem or storage medium"),
  (.resourceBusy, "ResourceBusy", "resource busy"),
  (.staleNetworkFileHandle, "StaleNetworkFileHandle", "stale network file handle"),
  (.storageFull, "StorageFull", "no storage space"),
  (.timedOut, "TimedOut", "timed out"),
  (.tooManyLinks, "TooManyLinks", "too many links"),
  (.uncategorized, "Uncategorized", "uncategorized error"),
  (.unexpectedEof, "UnexpectedEof", "unexpected end of file"),
  (.unsupported, "Unsupported", "unsupported"),
  (.wouldBlock, "WouldBlock", "operation would block"),
  (.writeZero, "WriteZero", "write zero")]

/-- The kind of that name. -/
def named? (name : String) : Option Kind :=
  (all.find? fun (_, n, _) => n == name).map (·.1)

/-- The name of a kind. -/
def name (kind : Kind) : String :=
  ((all.lookup kind).map (·.1)).getD ""

/-- The description of a kind. -/
def description (kind : Kind) : String :=
  ((all.lookup kind).map (·.2)).getD ""

end Kind

/-- A cause of failed input or output. -/
inductive Cause where
  /-- The system refused with an error number. -/
  | system (number : Int)
  /-- A cause known by its kind alone. -/
  | plain (kind : Kind)
  /-- A cause of some kind with a text of its own. -/
  | described (kind : Kind) (text : String)
  deriving DecidableEq, Repr

namespace Cause

/-- The wording of a cause. -/
def message : Cause → String
  | .system n =>
    let sign := if n < 0 then "-" else ""
    systemDescription n ++ " (os error " ++ sign ++ Decimal.text n.natAbs ++ ")"
  | .plain kind => kind.description
  | .described _ text => text

/-- The description of a cause without its number. -/
def description : Cause → String
  | .system n => systemDescription n
  | cause => cause.message

/-- A path or program does not exist. -/
def noEntry : Cause := .system 2

/-- A program cannot be executed because of its format. -/
def execFormat : Cause := .system 8

/-- A descriptor is not open. -/
def badDescriptor : Cause := .system 9

/-- Access is refused. -/
def accessDenied : Cause := .system 13

/-- Something stands where nothing may stand yet. -/
def alreadyExists : Cause := .system 17

/-- Something other than a directory stands before the end of a path. -/
def notDirectory : Cause := .system 20

/-- A directory stands where a file is needed. -/
def isDirectory : Cause := .system 21

/-- A name is too long. -/
def nameTooLong : Cause := .system 36

/-- The machine does not offer what is asked for. -/
def notImplemented : Cause := .system 38

/-- A path leads through too many links. -/
def tooManyLinks : Cause := .system 40

/-- A file that has to be text is not. -/
def notText : Cause := .described .invalidData "stream did not contain valid UTF-8"

/-- A path holds a zero octet. -/
def zeroInPath : Cause := .described .invalidInput "file name contained an unexpected NUL byte"

/-- A program or an argument holds a zero octet. -/
def zeroInCommand : Cause := .described .invalidInput "nul byte found in provided data"

/-- A stream takes no more octets. -/
def writeZero : Cause := .described .writeZero "failed to write whole buffer"

end Cause

end HostPreflight.Failure
